import StateMachine.Program.Error
import StateMachine.Traversal.Cursor
import StateMachine.Proofs.Except

/-!
# Visits of Guards

What is generated for a machine is generated node by node. Whoever visits a node gets a cursor
along with it and asks the cursor for the nodes around, so a wrong cursor can make a visit fail.
A `Visit` is such a computation. It notes each guard that it comes to, with the cursor it comes
with, and the notes remain when the visit is refused.

## Conventions

* A visit fails because the cursor has not been where it is asked for (`outside`), or for what the
  computation itself refuses (`refused`).
* The notes of a visit come behind those that were there before.

## Main results

* `Visit.Meets.bind`, `Visit.Meets.mapM`: a visit **meets** a computation and a list of guards if
  it gives what the computation gives, and notes guards of the list, in order: all of them if it
  succeeds, and a first part if it is refused.
* `Cursor.guards_eq`: a cursor in a transition gives its guards with their positions.
-/

namespace StateMachine

/-- A guard that was visited, and the cursor with which it was. -/
structure GuardVisit where
  cursor : Cursor
  guard : Guard
  deriving DecidableEq

/-- Why a visit fails. -/
inductive VisitError where
  | outside (e : OutsideScope)
  | refused (e : GenerationError)
  deriving DecidableEq, Repr

/-- A computation that visits guards. -/
abbrev Visit := ExceptT VisitError (StateM (List GuardVisit))

namespace Visit

variable {α β : Type}

/-- Asks a cursor. -/
def ask (x : Except OutsideScope α) : Visit α :=
  match x with
  | .ok a => pure a
  | .error e => throw (.outside e)

/-- Computes something without a cursor. -/
def emit (x : Emission α) : Visit α :=
  match x with
  | .ok a => pure a
  | .error e => throw (.refused e)

/-- Notes that a guard is visited. -/
def note (c : Cursor) (g : Guard) : Visit Unit :=
  modify fun notes => notes ++ [⟨c, g⟩]

/-- Visits the guards of the transition that the cursor is in. -/
def guards (c : Cursor) (visit : Cursor → Guard → Visit α) : Visit (List α) := do
  let guards ← ask c.guards
  guards.mapM fun (c, g) => visit c g

/-- What a visit gives, and which guards it comes to. -/
def outcome (x : Visit α) : Except VisitError α × List GuardVisit :=
  x.run.run []

/-! ### What a visit meets -/

/-- The visit gives what `r` gives. It comes to the guards of `all`, as far as it gets. -/
def Meets (x : Visit α) (r : Emission α) (all : List GuardVisit) : Prop :=
  ∀ notes, ∃ seen, x.run.run notes = (r.mapError .refused, notes ++ seen) ∧ seen <+: all ∧
    ∀ a, r = .ok a → seen = all

namespace Meets

variable {x : Visit α} {r : Emission α} {all all' : List GuardVisit}

/-- A visit that comes to nothing. -/
theorem pure (a : α) : Meets (Pure.pure a) (.ok a) [] :=
  fun notes => ⟨[], by rw [List.append_nil]; rfl, List.prefix_rfl, fun _ _ => rfl⟩

/-- A computation without a cursor comes to no guard. -/
theorem emit (r : Emission α) : Meets (emit r) r [] := by
  intro notes
  refine ⟨[], ?_, List.prefix_rfl, fun _ _ => rfl⟩
  rw [List.append_nil]
  cases r <;> rfl

/-- Nor does a question that the cursor can answer. -/
theorem ask {y : Except OutsideScope α} {a : α} (h : y = .ok a) : Meets (ask y) (.ok a) [] := by
  rw [h]
  exact pure a

/-- A guard is noted. -/
theorem note (c : Cursor) (g : Guard) : Meets (note c g) (.ok ()) [⟨c, g⟩] :=
  fun _ => ⟨[⟨c, g⟩], rfl, List.prefix_rfl, fun _ _ => rfl⟩

/-- **One visit after another** comes to the guards of both. If the first is refused, the second
does not take place. -/
theorem bind {k : α → Visit β} {f : α → Emission β} (h : Meets x r all)
    (hk : ∀ a, r = .ok a → Meets (k a) (f a) all') :
    Meets (x >>= k) (r >>= f) (all ++ all') := by
  intro notes
  obtain ⟨seen, hrun, hseen, hall⟩ := h notes
  rw [run_bind, hrun]
  cases r with
  | error e =>
      exact ⟨seen, rfl, hseen.trans (List.prefix_append ..), fun _ h => by cases h⟩
  | ok a =>
      obtain rfl := hall a rfl
      obtain ⟨seen', hrun', hseen', hall'⟩ := hk a rfl (notes ++ seen)
      refine ⟨seen ++ seen', ?_, (List.prefix_append_right_inj seen).mpr hseen', fun b hb => ?_⟩
      · rw [← List.append_assoc]
        exact hrun'
      · rw [hall' b hb]

/-- If the first visit cannot be refused, the result is that of the second. -/
theorem bind_ok {a : α} {k : α → Visit β} {r' : Emission β} (h : Meets x (.ok a) all)
    (hk : Meets (k a) r' all') : Meets (x >>= k) r' (all ++ all') :=
  h.bind (f := fun _ => r') fun b hb => by
    obtain rfl := Except.ok.inj hb
    exact hk

/-- What is computed before a visit without a cursor adds no guard. -/
theorem emit_bind {k : α → Visit β} {f : α → Emission β}
    (hk : ∀ a, r = .ok a → Meets (k a) (f a) all) :
    Meets (Visit.emit r >>= k) (r >>= f) all :=
  (emit r).bind hk

/-- Nor does what comes after a visit and comes to nothing. -/
theorem bind_silent {k : α → Visit β} {f : α → Emission β} (h : Meets x r all)
    (hk : ∀ a, r = .ok a → Meets (k a) (f a) []) : Meets (x >>= k) (r >>= f) all := by
  rw [← List.append_nil all]
  exact h.bind hk

/-- Changing the result changes no guard. -/
theorem map_ok {a : α} (h : Meets x (.ok a) all) (f : α → β) :
    Meets (x >>= fun a => Pure.pure (f a)) (.ok (f a)) all :=
  h.bind_silent (f := fun a => .ok (f a)) fun a _ => pure (f a)

/-- **Visits of a list** come to the guards of its entries. -/
theorem mapM {l : List α} {f : α → Visit β} {f' : α → Emission β}
    {all : α → List GuardVisit} (h : ∀ a ∈ l, Meets (f a) (f' a) (all a)) :
    Meets (l.mapM f) (l.mapM f') (l.flatMap all) := by
  induction l with
  | nil => exact pure []
  | cons a l ih =>
      obtain ⟨ha, hl⟩ := List.forall_mem_cons.mp h
      rw [List.mapM_cons, List.mapM_cons, List.flatMap_cons]
      exact ha.bind fun b _ => (ih hl).bind_silent fun bs _ => pure (b :: bs)

/-- If none of them is refused, the list is not. -/
theorem mapM_ok {l : List α} {f : α → Visit β} {f' : α → β} {all : α → List GuardVisit}
    (h : ∀ a ∈ l, Meets (f a) (.ok (f' a)) (all a)) :
    Meets (l.mapM f) (.ok (l.map f')) (l.flatMap all) := by
  have hok : l.mapM (fun a => (.ok (f' a) : Emission β)) = .ok (l.map f') := List.mapM_pure
  rw [← hok]
  exact mapM h

end Meets

end Visit

/-! ### Guards with their positions -/

/-- The cursor at the guard of index `i` in a transition of a state of a map. -/
def Cursor.atGuard (m : Machine) (map : Map) (s : State) (t : Transition) (i : Nat) : Cursor :=
  { machine := m
    map? := some map
    state? := some s
    transition? := some t
    guard? := some ⟨UInt64.ofNat i, t.guards.length⟩ }

/-- The guards of a transition, each with the nodes that it belongs to and with its position. -/
def Transition.guardVisits (m : Machine) (map : Map) (s : State) (t : Transition) :
    List GuardVisit :=
  t.guards.zipIdx.map fun (g, i) => ⟨.atGuard m map s t i, g⟩

/-- Those of a state. -/
def State.guardVisits (m : Machine) (map : Map) (s : State) : List GuardVisit :=
  s.transitions.flatMap (Transition.guardVisits m map s)

/-- Those of a map, from the default state on. -/
def Map.guardVisits (m : Machine) (map : Map) : List GuardVisit :=
  map.allStates.flatMap (State.guardVisits m map)

/-- All guards of a machine, each with the nodes that it belongs to and with its position. -/
def Machine.guardVisits (m : Machine) : List GuardVisit :=
  m.maps.flatMap (Map.guardVisits m)

/-- **Every guard is there, at its own place**: with the map, the state and the transition that it
belongs to, and with its index among the guards of this transition. -/
theorem Machine.mem_guardVisits_iff {m : Machine} {visit : GuardVisit} :
    visit ∈ m.guardVisits ↔
      ∃ map ∈ m.maps, ∃ s ∈ map.allStates, ∃ t ∈ s.transitions, ∃ i g,
        t.guards[i]? = some g ∧ visit = ⟨.atGuard m map s t i, g⟩ := by
  simp only [guardVisits, Map.guardVisits, State.guardVisits, Transition.guardVisits,
    List.mem_flatMap, List.mem_map, Prod.exists, List.mem_zipIdx_iff_getElem?]
  constructor
  · rintro ⟨map, hmap, s, hs, t, ht, g, i, hg, rfl⟩
    exact ⟨map, hmap, s, hs, t, ht, i, g, hg, rfl⟩
  · rintro ⟨map, hmap, s, hs, t, ht, i, g, hg, rfl⟩
    exact ⟨map, hmap, s, hs, t, ht, g, i, hg, rfl⟩

namespace Cursor

/-- Guards are numbered by their indices, as machine words. -/
theorem numberGuards_eq (start : Nat) (gs : List Guard) :
    numberGuards (UInt64.ofNat start) gs =
      (gs.zipIdx start).map fun (g, i) => (UInt64.ofNat i, g) := by
  induction gs generalizing start with
  | nil => rfl
  | cons g gs ih =>
      have hnext : UInt64.ofNat start + 1 = UInt64.ofNat (start + 1) := by
        rw [UInt64.ofNat_add]
        rfl
      rw [numberGuards, hnext, ih, List.zipIdx_cons, List.map_cons]

variable (m : Machine) (map : Map) (s : State) (t : Transition)

/-- The cursor in a transition of a state of a map. -/
def atTransition : Cursor :=
  (((root m).enterMap map).enterState s).enterTransition t

/-- **A cursor in a transition gives its guards with their positions.** -/
theorem guards_eq :
    (atTransition m map s t).guards =
      .ok (t.guards.zipIdx.map fun (g, i) => (atGuard m map s t i, g)) := by
  show Except.ok ((numberGuards (UInt64.ofNat 0) t.guards).map fun numbered =>
    ((atTransition m map s t).enterGuard numbered.1, numbered.2)) = _
  rw [numberGuards_eq, List.map_map]
  rfl

end Cursor

/-- **The guards of a transition are visited** with their positions, one after the other. -/
theorem Visit.Meets.guards {α : Type} {m : Machine} {map : Map} {s : State} {t : Transition}
    {visit : Cursor → Guard → Visit α} {r : Guard → Emission α}
    (h : ∀ i g, Meets (visit (.atGuard m map s t i) g) (r g) [⟨.atGuard m map s t i, g⟩]) :
    Meets (guards (.atTransition m map s t) visit) (t.guards.mapM r) (t.guardVisits m map s) := by
  have hvisits : t.guardVisits m map s =
      t.guards.zipIdx.flatMap fun (g, i) => [⟨.atGuard m map s t i, g⟩] :=
    List.map_eq_flatMap
  have hresults : t.guards.mapM r = t.guards.zipIdx.mapM fun (g, i) => r g := by
    conv_lhs => rw [← List.zipIdx_map_fst 0 t.guards, List.mapM_map]
    rfl
  rw [hvisits, hresults]
  refine (Meets.ask (Cursor.guards_eq m map s t)).bind_ok ?_
  rw [List.mapM_map]
  exact mapM fun (g, i) _ => h i g

end StateMachine
