import StateMachine.Listing.Basic
import StateMachine.Proofs.Traversal.Visit

/-!
# Listing a Machine Node by Node

The items of a listing are known from the machine alone. Here they are made by visits that hand a
cursor down from node to node, and a guard takes the transition that it is listed with from the
cursor. Both ways give the same items. Where only names are shown, a transition is listed before
any of its guards is visited, so none is.

## Main results

* `meets_visitMachine`: the visits make the items of the listing, and come to every guard, at its
  own place, or to none.
-/

namespace StateMachine.Listing

open Visit

variable (level : Detail)

/-! ### Visits -/

/-- Lists a guard, with the transition that the cursor is in. -/
def visitGuard (c : Cursor) (g : Guard) : Visit Item := do
  note c g
  let t ← ask c.transition
  return guardItem level t g

/-- Lists a transition. -/
def visitTransition (c : Cursor) (t : Transition) : Visit (List Item) :=
  if level = .names || t.guards.isEmpty then return [.line (signatureText level t)]
  else guards c (visitGuard level)

/-- Lists a state. -/
def visitState (c : Cursor) (s : State) : Visit (List Item) := do
  let below ← s.transitions.mapM fun t => visitTransition level (c.enterTransition t) t
  return [.line s.className] ++
    (if level = .full then
      boundaryItems "Entry" s.entryActions ++ boundaryItems "Exit" s.exitActions
    else []) ++
    [.block "\x7b" below.flatten]

/-- Lists a map. -/
def visitMap (c : Cursor) (map : Map) : Visit (List Item) := do
  let below ← map.allStates.mapM fun s => visitState level (c.enterState s) s
  return [.blank, .line ("%map " ++ map.name), .line "%%"] ++ below.flatten ++
    (if level = .full then map.undefinedDefaultTransitions.map derivedItem else []) ++
    [.line "%%"]

/-- Lists a machine. -/
def visitMachine (m : Machine) (start : String) (unreachable : List String) :
    Visit (List Item) := do
  let c := Cursor.root m
  let below ← m.maps.mapM fun map => visitMap level (c.enterMap map) map
  return headItems level m start ++ below.flatten ++ unreachableItems level unreachable

/-! ### The guards that are visited -/

/-- The guards that are visited for a listing: none if only names are shown, else all. -/
def shown (all : List GuardVisit) : List GuardVisit :=
  if level = .names then [] else all

/-- The guards of a list that are visited are those of its entries. -/
theorem shown_flatMap {α : Type} (l : List α) (all : α → List GuardVisit) :
    shown level (l.flatMap all) = l.flatMap fun a => shown level (all a) := by
  unfold shown
  split
  · exact (List.flatMap_eq_nil_iff.mpr fun _ _ => rfl).symm
  · rfl

variable (m : Machine) (map : Map) (s : State) (t : Transition)

/-- A guard is listed with its own transition. -/
theorem meets_visitGuard (i : Nat) (g : Guard) :
    Meets (visitGuard level (.atGuard m map s t i) g) (.ok (guardItem level t g))
      [⟨.atGuard m map s t i, g⟩] :=
  (Meets.note _ _).bind_ok ((Meets.ask rfl).bind_ok (.pure _))

/-- A transition is listed by its name, or by its guards. -/
theorem meets_visitTransition :
    Meets (visitTransition level (.atTransition m map s t) t) (.ok (transitionItems level t))
      (shown level (t.guardVisits m map s)) := by
  unfold visitTransition transitionItems
  split_ifs with hbrief
  · have hnone : shown level (t.guardVisits m map s) = [] := by
      unfold shown
      split_ifs with hnames
      · rfl
      · have hempty : t.guards = [] := by simpa [hnames] using hbrief
        rw [Transition.guardVisits, hempty]
        rfl
    rw [hnone]
    exact .pure _
  · have hall : shown level (t.guardVisits m map s) = t.guardVisits m map s := by
      simp only [Bool.or_eq_true, decide_eq_true_eq, not_or] at hbrief
      exact if_neg hbrief.1
    have hitems : t.guards.mapM (fun g => (.ok (guardItem level t g) : Emission Item)) =
        .ok (t.guards.map (guardItem level t)) := List.mapM_pure
    rw [hall, ← hitems]
    exact .guards (meets_visitGuard level m map s t)

/-- A state is listed with its transitions. -/
theorem meets_visitState :
    Meets (visitState level (((Cursor.root m).enterMap map).enterState s) s)
      (.ok (stateItems level s)) (shown level (s.guardVisits m map)) := by
  rw [State.guardVisits, shown_flatMap]
  exact (Meets.mapM_ok fun t _ => meets_visitTransition level m map s t).map_ok _

/-- A map is listed with its states. -/
theorem meets_visitMap :
    Meets (visitMap level ((Cursor.root m).enterMap map) map) (.ok (mapItems level map))
      (shown level (map.guardVisits m)) := by
  rw [Map.guardVisits, shown_flatMap]
  exact (Meets.mapM_ok fun s _ => meets_visitState level m map s).map_ok _

/-- **The visits of a machine make its listing.** None of them is outside of where its cursor has
been, and they come to all guards, or to none if only names are shown. -/
theorem meets_visitMachine (start : String) (unreachable : List String) :
    Meets (visitMachine level m start unreachable) (.ok (items level m start unreachable))
      (shown level m.guardVisits) := by
  rw [Machine.guardVisits, shown_flatMap]
  exact (Meets.mapM_ok fun map _ => meets_visitMap level m map).map_ok _

end StateMachine.Listing
