import StateMachine.Proofs.Construction

/-!
# A Workshop Keeps the Rules

Transitions, states, maps and machines are worked on side by side: each is started empty, and is
given guards, actions and copies of other pieces, in any order. What is given can be refused, and
the work goes on after a refusal. A `Workshop` holds all the pieces, an `Operation` is one piece
of work, and `Workshop.accepted` says what the workshop would be if nothing were ever refused.

## Proof strategy

For each kind of piece there is one lemma that says when it takes another one: if and only if it
would keep the rules with it (`Decides`). Which piece of the workshop is worked on does not matter
to this (`Workshop.Sound.outcome_attempt`), so that each operation is a case of one of these
lemmas. That the rules hold for what there is goes along the run by induction on the operations.

## Conventions

* The rules are those of `Transition.WellFormed`, `State.WellFormed`, `Map.WellFormed` and
  `Machine.WellFormed`. What is given comes last among its like; only the first default state of
  a map goes into its own place.
* Pieces go by their positions. An operation on a piece that is not there, or is of another kind,
  changes nothing and is not refused, and neither is a guard for a transition that a state does
  not have.

## Main results

* `Transition.decides_addGuard`, `State.decides_addTransition`, `State.decides_extendTransition`,
  `Map.decides_addState`, `Machine.decides_addMap`: when a piece takes what it is given.
* `Workshop.Sound.outcome_step`: what one operation does to a workshop that keeps the rules.
* `workshop_refuses_only_violations`: after any operations all pieces keep the rules, and **an
  operation is refused if and only if it would break one**.
-/

namespace StateMachine

/-! ### Pieces with one more -/

/-- The transition with `g` as its last guard, whatever stands before it. -/
def Transition.accept (t : Transition) (g : Guard) : Transition :=
  { t with guards := t.guards ++ [g] }

/-- The state with `t` as its last transition. -/
def State.accept (s : State) (t : Transition) : State :=
  { s with transitions := s.transitions ++ [t] }

/-- The state with `g` as the last guard of its transition `name`. -/
def State.acceptGuard (s : State) (name : String) (g : Guard) : State :=
  { s with transitions := s.transitions.map fun t => if t.name = name then t.accept g else t }

/-- The map with `s` as its default state, if it is one and there is none, and as its last
ordinary state otherwise. -/
def Map.accept (m : Map) (s : State) : Map :=
  if s.className = "Default" ∧ m.defaultState = none then { m with defaultState := some s }
  else { m with states := m.states ++ [s] }

/-- The machine with `map` as its last map. -/
def Machine.accept (m : Machine) (map : Map) : Machine :=
  { m with maps := m.maps ++ [map] }

/-! ### When a piece is taken -/

/-- The result is `accepted` if this keeps the rules, and otherwise a defect on the given line. -/
def Decides {α : Type} (Rules : α → Prop) (accepted : α) (line? : Option Nat)
    (result : Except Defect α) : Prop :=
  (Rules accepted ∧ result = .ok accepted) ∨
    (¬ Rules accepted ∧ ∃ d, result = .error d ∧ line? = some d.line)

/-- A transition takes a guard if and only if no guard before it is unconditional. -/
theorem Transition.decides_addGuard (t : Transition) (g : Guard) :
    Decides Transition.WellFormed (t.accept g) (some g.line) (t.addGuard g) := by
  cases hblocked : t.hasUnconditionalGuard with
  | false =>
      have hadd : t.addGuard g = .ok (t.accept g) :=
        Transition.addGuard_eq_ok_iff.mpr ⟨hblocked, rfl⟩
      exact .inl ⟨.addGuard hadd, hadd⟩
  | true =>
      refine .inr ⟨fun hrules => ?_, .guardAfterUnconditional t.name g.line, ?_, rfl⟩
      · obtain ⟨g', hg', hunconditional⟩ := List.any_eq_true.mp hblocked
        have hbefore : g' ∈ (t.accept g).guards.dropLast := by
          rw [Transition.accept, List.dropLast_concat]
          exact hg'
        exact hrules.condition_ne g' hbefore (of_decide_eq_true hunconditional)
      · rw [Transition.addGuard, if_pos hblocked]

/-- A state takes a transition if and only if it has none of its name. -/
theorem State.decides_addTransition {s : State} {t : Transition} (hs : s.WellFormed)
    (ht : t.WellFormed) :
    Decides State.WellFormed (s.accept t) (some t.line) (s.addTransition t) := by
  cases hdefines : s.defines t.name with
  | false =>
      have hadd : s.addTransition t = .ok (s.accept t) :=
        State.addTransition_eq_ok_iff.mpr ⟨hdefines, rfl⟩
      exact .inl ⟨hs.addTransition ht hadd, hadd⟩
  | true =>
      refine .inr ⟨fun hrules => ?_, .duplicateTransition s.className t.name t.line, ?_, rfl⟩
      · obtain ⟨u, hu, hname⟩ := State.defines_iff.mp hdefines
        have hnodup := hrules.names_nodup
        rw [State.accept, List.map_append, List.nodup_append] at hnodup
        exact hnodup.2.2 u.name (List.mem_map_of_mem hu) t.name (by simp) hname
      · rw [State.addTransition, if_pos hdefines]

/-- Replacing the only transition of a name is changing the transitions of that name. -/
theorem State.replaceTransition_accept {name : String} {g : Guard} {t : Transition}
    {ts : List Transition} (hnodup : (ts.map Transition.name).Nodup)
    (hfind : ts.find? (fun t => t.name = name) = some t) :
    State.replaceTransition name (t.accept g) ts =
      ts.map fun t => if t.name = name then t.accept g else t := by
  induction ts with
  | nil => rfl
  | cons u rest ih =>
      rw [List.map_cons, List.nodup_cons] at hnodup
      by_cases hu : u.name = name
      · obtain rfl : u = t := by simpa [hu] using hfind
        have hrest : ∀ v ∈ rest, v.name ≠ name := by
          intro v hv hname
          exact hnodup.1 (hu ▸ hname ▸ List.mem_map_of_mem hv)
        have hsame : rest.map (fun t => if t.name = name then t.accept g else t) = rest := by
          rw [List.map_congr_left fun v hv => if_neg (hrest v hv), List.map_id']
        rw [State.replaceTransition, if_pos hu, List.map_cons, if_pos hu, hsame]
      · have hfind : rest.find? (fun t => t.name = name) = some t := by simpa [hu] using hfind
        rw [State.replaceTransition, if_neg hu, List.map_cons, if_neg hu, ih hnodup.2 hfind]

/-- A state takes a further guard for a transition that it has if and only if the transition
does. -/
theorem State.decides_extendTransition {s : State} (hs : s.WellFormed) (name : String)
    (g : Guard) :
    Decides State.WellFormed (s.acceptGuard name g) (some g.line)
      ((s.extendTransition name g).getD (.ok s)) := by
  cases hfind : s.transition? name with
  | none =>
      have hsame : s.acceptGuard name g = s := by
        have hother : ∀ t ∈ s.transitions, t.name ≠ name := by
          simpa [State.transition?] using hfind
        rw [State.acceptGuard, List.map_congr_left fun t ht => if_neg (hother t ht), List.map_id']
      rw [hsame, State.extendTransition, hfind]
      exact .inl ⟨hs, rfl⟩
  | some t =>
      have hreplace : s.acceptGuard name g =
          { s with transitions := State.replaceTransition name (t.accept g) s.transitions } := by
        rw [State.acceptGuard, State.replaceTransition_accept hs.names_nodup hfind]
      have hname : t.name = name := by simpa using List.find?_some hfind
      have hmem : t.accept g ∈ (s.acceptGuard name g).transitions :=
        List.mem_map.mpr ⟨t, List.mem_of_find?_eq_some hfind, if_pos hname⟩
      rcases t.decides_addGuard g with ⟨-, hadd⟩ | ⟨hbreaks, d, hadd, hline⟩
      · have hextend : s.extendTransition name g = some (.ok (s.acceptGuard name g)) :=
          State.extendTransition_eq_ok_iff.mpr ⟨t, _, hfind, hadd, hreplace⟩
        exact .inl ⟨hs.extendTransition hextend, by rw [hextend, Option.getD_some]⟩
      · refine .inr ⟨fun hrules => hbreaks (hrules.transitions _ hmem), d, ?_, hline⟩
        rw [State.extendTransition, hfind, Option.map_some, hadd]
        rfl

/-- A map takes a default state if and only if it has none, and an ordinary state if and only if
it has none of its name. -/
theorem Map.decides_addState {m : Map} {s : State} (hm : m.WellFormed) (hs : s.WellFormed) :
    Decides Map.WellFormed (m.accept s) (some s.line) (m.addState s) := by
  cases hdefault : s.isDefault with
  | true =>
      have hclass := State.isDefault_iff.mp hdefault
      cases hslot : m.defaultState with
      | none =>
          have hadd : m.addState s = .ok (m.accept s) :=
            Map.addState_eq_ok_iff.mpr (.inl ⟨hdefault, hslot, if_pos ⟨hclass, hslot⟩⟩)
          exact .inl ⟨hm.addState hs hadd, hadd⟩
      | some d =>
          refine .inr ⟨fun hrules => ?_, .duplicateDefaultState m.name s.line, ?_, rfl⟩
          · have hmem : s ∈ (m.accept s).states := by simp [Map.accept, hslot]
            exact hrules.className_ne s hmem hclass
          · rw [Map.addState, if_pos hdefault, hslot, Option.isSome_some, if_pos rfl]
  | false =>
      have hclass := State.isDefault_eq_false_iff.mp hdefault
      have haccept : m.accept s = { m with states := m.states ++ [s] } :=
        if_neg fun hboth => hclass hboth.1
      cases hknown : m.isKnownState s.instanceName with
      | false =>
          have hadd : m.addState s = .ok (m.accept s) :=
            Map.addState_eq_ok_iff.mpr (.inr ⟨hdefault, hknown, haccept⟩)
          exact .inl ⟨hm.addState hs hadd, hadd⟩
      | true =>
          refine .inr ⟨fun hrules => ?_, .duplicateState m.name s.instanceName s.line, ?_, rfl⟩
          · obtain ⟨u, hu, hname⟩ := Map.isKnownState_iff.mp hknown
            rw [State.instanceName_of_ordinary (hm.ordinary u hu),
              State.instanceName_of_ordinary hdefault] at hname
            have hnodup := hrules.classNames_nodup
            rw [haccept, List.map_append, List.nodup_append] at hnodup
            exact hnodup.2.2 u.className (List.mem_map_of_mem hu) s.className (by simp) hname
          · rw [Map.addState, hdefault, if_neg Bool.false_ne_true, if_pos hknown]

/-- A machine takes a map if and only if it has none of its name. -/
theorem Machine.decides_addMap {m : Machine} {map : Map} (hm : m.WellFormed)
    (hmap : map.WellFormed) :
    Decides Machine.WellFormed (m.accept map) (some map.line) (m.addMap map) := by
  cases hknown : (m.map? map.name).isSome with
  | false =>
      have hadd : m.addMap map = .ok (m.accept map) := Machine.addMap_eq_ok_iff.mpr ⟨hknown, rfl⟩
      exact .inl ⟨hm.addMap hmap hadd, hadd⟩
  | true =>
      refine .inr ⟨fun hrules => ?_, .duplicateMap map.name map.line, ?_, rfl⟩
      · obtain ⟨u, hu, hname⟩ : ∃ u ∈ m.maps, u.name = map.name := by
          simpa [Machine.map?] using hknown
        have hnodup := hrules.names_nodup
        rw [Machine.accept, List.map_append, List.nodup_append] at hnodup
        exact hnodup.2.2 u.name (List.mem_map_of_mem hu) map.name (by simp) hname
      · rw [Machine.addMap, if_pos hknown]

/-! ### Pieces and tasks -/

/-- Anything that is worked on. -/
inductive Workpiece where
  | transition (t : Transition)
  | state (s : State)
  | map (m : Map)
  | machine (m : Machine)

/-- What a piece can be given that is no piece itself. -/
inductive Workpiece.Task where
  | withParameters (parameters : List Parameter)
  | addGuard (guard : Guard)
  | addEntryAction (action : Action)
  | addExitAction (action : Action)
  /-- Gives a guard to a transition within a state. -/
  | extendTransition (name : String) (guard : Guard)
  | setStart (name : String) (line : Nat)
  | declare (package source sourceFile header : Option String)
      (imports includes declarations : List String)

/-- The line of what is given. -/
def Workpiece.Task.line? : Task → Option Nat
  | .addGuard g | .extendTransition _ g => some g.line
  | _ => none

/-- The kinds of pieces. -/
inductive Workpiece.Kind where
  | transition
  | state
  | map
  | machine

namespace Workpiece

/-- An empty piece. A machine has no line, and goes by its context class. -/
def new (name : String) (line : Nat) : Kind → Workpiece
  | .transition => .transition { name, line }
  | .state => .state { className := name, line }
  | .map => .map { name, line }
  | .machine => .machine { context := name }

/-- The line of a piece; a machine has none. -/
def line? : Workpiece → Option Nat
  | .transition t => some t.line
  | .state s => some s.line
  | .map m => some m.line
  | .machine _ => none

/-- The piece keeps the rules of its kind. -/
def WellFormed : Workpiece → Prop
  | .transition t => t.WellFormed
  | .state s => s.WellFormed
  | .map m => m.WellFormed
  | .machine m => m.WellFormed

/-- The piece after a task; one that it is not fit for leaves it as it is. -/
def perform : Workpiece → Task → Except Defect Workpiece
  | .transition t, .withParameters parameters => .ok (.transition (t.withParameters parameters))
  | .transition t, .addGuard g => (t.addGuard g).map .transition
  | .state s, .addEntryAction action => .ok (.state (s.addEntryAction action))
  | .state s, .addExitAction action => .ok (.state (s.addExitAction action))
  | .state s, .extendTransition name g => ((s.extendTransition name g).getD (.ok s)).map .state
  | .machine m, .setStart name line => .ok (.machine (m.setStart name line))
  | .machine m, .declare package source sourceFile header imports includes declarations =>
    .ok (.machine { m with
      package, source, sourceFile, header, imports, includes, declarations })
  | p, _ => .ok p

/-- The piece after a task, where nothing is refused: what it is given comes last among its
like, and all else stays as it is. -/
def accept : Workpiece → Task → Workpiece
  | .transition t, .withParameters parameters =>
    .transition { t with parameters := t.parameters ++ parameters }
  | .transition t, .addGuard g => .transition (t.accept g)
  | .state s, .addEntryAction action =>
    .state { s with entryActions := s.entryActions ++ [action] }
  | .state s, .addExitAction action =>
    .state { s with exitActions := s.exitActions ++ [action] }
  | .state s, .extendTransition name g => .state (s.acceptGuard name g)
  | .machine m, .setStart name line =>
    .machine { m with start := some (Reference.parse name, line) }
  | .machine m, .declare package source sourceFile header imports includes declarations =>
    .machine { m with package, source, sourceFile, header, imports, includes, declarations }
  | p, _ => p

/-- The piece with another one in it; one that does not belong there is left out. -/
def take : Workpiece → Workpiece → Except Defect Workpiece
  | .state s, .transition t => (s.addTransition t).map .state
  | .map m, .state s => (m.addState s).map .map
  | .machine m, .map child => (m.addMap child).map .machine
  | p, _ => .ok p

/-- The piece with another one in it, where nothing is refused. -/
def hold : Workpiece → Workpiece → Workpiece
  | .state s, .transition t => .state (s.accept t)
  | .map m, .state s => .map (m.accept s)
  | .machine m, .map child => .machine (m.accept child)
  | p, _ => p

end Workpiece

/-! ### What a piece does -/

/-- What is decided for a transition, a state, a map or a machine is decided for the piece. -/
theorem Decides.map {α : Type} {Rules : α → Prop} {accepted : α} {line? : Option Nat}
    {result : Except Defect α} (h : Decides Rules accepted line? result) {make : α → Workpiece}
    (hmake : ∀ x, (make x).WellFormed ↔ Rules x) :
    Decides Workpiece.WellFormed (make accepted) line? (result.map make) := by
  rcases h with ⟨hkeeps, rfl⟩ | ⟨hbreaks, d, rfl, hline⟩
  · exact .inl ⟨(hmake _).mpr hkeeps, rfl⟩
  · exact .inr ⟨fun hrules => hbreaks ((hmake _).mp hrules), d, rfl, hline⟩

/-- A piece that keeps the rules is not refused. -/
theorem Decides.ok {p : Workpiece} {line? : Option Nat} (hp : p.WellFormed) :
    Decides Workpiece.WellFormed p line? (.ok p) :=
  .inl ⟨hp, rfl⟩

namespace Workpiece

/-- An empty piece keeps the rules. -/
theorem wellFormed_new (name : String) (line : Nat) (kind : Kind) :
    (new name line kind).WellFormed := by
  cases kind with
  | transition => exact (Transition.Built.new name line).wellFormed
  | state => exact (State.Built.new name line).wellFormed
  | map => exact (Map.Built.new name line).wellFormed
  | machine => exact (Machine.Built.new name).wellFormed

/-- **A task is refused if and only if it would break a rule.** -/
theorem decides_perform {p : Workpiece} (hp : p.WellFormed) (task : Task) :
    Decides WellFormed (p.accept task) task.line? (p.perform task) := by
  cases p with
  | transition t =>
      cases task with
      | withParameters parameters => exact .ok (show WellFormed _ from ⟨hp.condition_ne⟩)
      | addGuard g => exact (t.decides_addGuard g).map fun _ => Iff.rfl
      | _ => exact .ok hp
  | state s =>
      cases task with
      | addEntryAction action => exact .ok ⟨hp.names_nodup, hp.transitions⟩
      | addExitAction action => exact .ok ⟨hp.names_nodup, hp.transitions⟩
      | extendTransition name g =>
          exact (State.decides_extendTransition hp name g).map fun _ => Iff.rfl
      | _ => exact .ok hp
  | map m => exact .ok hp
  | machine m =>
      cases task with
      | setStart name line => exact .ok ⟨hp.names_nodup, hp.maps⟩
      | declare package source sourceFile header imports includes declarations =>
          exact .ok ⟨hp.names_nodup, hp.maps⟩
      | _ => exact .ok hp

/-- **So is another piece.** -/
theorem decides_take {p child : Workpiece} (hp : p.WellFormed) (hchild : child.WellFormed) :
    Decides WellFormed (p.hold child) child.line? (p.take child) := by
  cases p with
  | transition t => exact .ok hp
  | state s =>
      cases child with
      | transition t => exact (State.decides_addTransition hp hchild).map fun _ => Iff.rfl
      | _ => exact .ok hp
  | map m =>
      cases child with
      | state s => exact (Map.decides_addState hp hchild).map fun _ => Iff.rfl
      | _ => exact .ok hp
  | machine m =>
      cases child with
      | map child => exact (Machine.decides_addMap hp hchild).map fun _ => Iff.rfl
      | _ => exact .ok hp

end Workpiece

/-! ### Workshops -/

/-- All pieces that are worked on. -/
structure Workshop where
  pieces : List Workpiece := []

/-- One piece of work. Pieces are named by their positions. -/
inductive Operation where
  /-- Starts an empty piece. -/
  | start (name : String) (line : Nat) (kind : Workpiece.Kind)
  | perform (piece : Nat) (task : Workpiece.Task)
  /-- Gives the piece a copy of another one. -/
  | give (piece child : Nat)

namespace Workshop

/-- Works on the piece at `i`: what is refused is reported, and the pieces are left as they
are. -/
def attempt (w : Workshop) (i : Nat) (work : Workpiece → Except Defect Workpiece) :
    Option Defect × Workshop :=
  match w.pieces[i]? with
  | none => (none, w)
  | some p =>
    match work p with
    | .ok done => (none, { pieces := w.pieces.set i done })
    | .error d => (some d, w)

/-- What an operation reports, and the workshop after it. -/
def step (w : Workshop) : Operation → Option Defect × Workshop
  | .start name line kind => (none, { pieces := w.pieces ++ [.new name line kind] })
  | .perform i task => w.attempt i fun p => p.perform task
  | .give i j =>
    match w.pieces[j]? with
    | some child => w.attempt i fun p => p.take child
    | none => (none, w)

/-- The workshop after an operation that nothing refuses. -/
def accepted (w : Workshop) : Operation → Workshop
  | .start name line kind => { pieces := w.pieces ++ [.new name line kind] }
  | .perform i task => { pieces := w.pieces.modify i fun p => p.accept task }
  | .give i j =>
    match w.pieces[j]? with
    | some child => { pieces := w.pieces.modify i fun p => p.hold child }
    | none => w

/-- The line of what an operation gives to a piece. -/
def givenLine? (w : Workshop) : Operation → Option Nat
  | .start _ _ _ => none
  | .perform _ task => task.line?
  | .give _ j => w.pieces[j]?.bind Workpiece.line?

/-- The workshop after all operations, one after the other, whatever is refused. -/
def run (ops : List Operation) : Workshop :=
  ops.foldl (fun w op => (w.step op).2) {}

/-- All pieces keep the rules. -/
def Sound (w : Workshop) : Prop :=
  ∀ p ∈ w.pieces, p.WellFormed

/-- The workshop is `accepted`, and nothing is reported, if all pieces of it keep the rules; and
otherwise a defect on the given line is reported, and the workshop is as it was. -/
def Outcome (w accepted : Workshop) (line? : Option Nat) (result : Option Defect × Workshop) :
    Prop :=
  (accepted.Sound ∧ result = (none, accepted)) ∨
    (¬ accepted.Sound ∧ ∃ d, result = (some d, w) ∧ line? = some d.line)

/-! ### What an operation does -/

variable {w : Workshop}

/-- **What is decided for one piece is the outcome for the workshop.** -/
theorem Sound.outcome_attempt (hw : w.Sound) (i : Nat)
    {work : Workpiece → Except Defect Workpiece} {accept : Workpiece → Workpiece}
    {line? : Option Nat}
    (hdecides : ∀ p, p.WellFormed → Decides Workpiece.WellFormed (accept p) line? (work p)) :
    Outcome w { pieces := w.pieces.modify i accept } line? (w.attempt i work) := by
  cases hpiece : w.pieces[i]? with
  | none =>
      have hsame : w.pieces.modify i accept = w.pieces :=
        List.modify_eq_self (List.getElem?_eq_none_iff.mp hpiece)
      simp only [hsame, attempt, hpiece]
      exact .inl ⟨hw, rfl⟩
  | some p =>
      have hp : p ∈ w.pieces := List.mem_of_getElem? hpiece
      have hi : i < w.pieces.length := (List.getElem?_eq_some_iff.mp hpiece).1
      have hmodify : w.pieces.modify i accept = w.pieces.set i (accept p) := by
        rw [List.modify_eq_set_getElem?, hpiece]
        rfl
      rcases hdecides p (hw p hp) with ⟨hkeeps, hwork⟩ | ⟨hbreaks, d, hwork, hline⟩
      · refine .inl ⟨fun q hq => ?_, by simp only [attempt, hpiece, hwork, hmodify]⟩
        simp only [hmodify] at hq
        rcases List.mem_or_eq_of_mem_set hq with hold | rfl
        · exact hw q hold
        · exact hkeeps
      · refine .inr ⟨fun hsound => hbreaks (hsound _ ?_), d, ?_, hline⟩
        · simp only [hmodify]
          exact List.mem_set hi _
        · simp only [attempt, hpiece, hwork]

/-- **An operation on a sound workshop is refused if and only if it would break a rule.** -/
theorem Sound.outcome_step (hw : w.Sound) (op : Operation) :
    Outcome w (w.accepted op) (w.givenLine? op) (w.step op) := by
  cases op with
  | start name line kind =>
      refine .inl ⟨fun p hp => ?_, rfl⟩
      rcases List.mem_append.mp hp with hold | hnew
      · exact hw p hold
      · rw [List.mem_singleton.mp hnew]
        exact Workpiece.wellFormed_new name line kind
  | perform i task => exact hw.outcome_attempt i fun p hp => Workpiece.decides_perform hp task
  | give i j =>
      cases hchild : w.pieces[j]? with
      | none =>
          simp only [accepted, step, hchild]
          exact .inl ⟨hw, rfl⟩
      | some child =>
          have hwell : child.WellFormed := hw child (List.mem_of_getElem? hchild)
          simp only [accepted, givenLine?, step, hchild, Option.bind_some]
          exact hw.outcome_attempt i fun p hp => Workpiece.decides_take hp hwell

/-- An operation leaves a sound workshop sound. -/
theorem Sound.step (hw : w.Sound) (op : Operation) : (w.step op).2.Sound := by
  rcases hw.outcome_step op with ⟨hsound, hstep⟩ | ⟨-, d, hstep, -⟩
  · rw [hstep]
    exact hsound
  · rw [hstep]
    exact hw

/-- **All operations do**, one after the other. -/
theorem sound_run (ops : List Operation) : (run ops).Sound := by
  have hfold : ∀ (ops : List Operation) (w : Workshop), w.Sound →
      (ops.foldl (fun w op => (w.step op).2) w).Sound := by
    intro ops
    induction ops with
    | nil => exact fun w hw => hw
    | cons op rest ih => exact fun w hw => ih _ (hw.step op)
  exact hfold ops {} fun p hp => absurd hp List.not_mem_nil

end Workshop

/-- **Only violations are refused.** Whatever was done, and whatever of it was refused, all pieces
keep the rules. A further operation goes through, and does just what it says, if and only if all
pieces still keep them then; and otherwise a defect on the line of what was given is reported, and
nothing changes. -/
theorem workshop_refuses_only_violations (ops : List Operation) :
    (Workshop.run ops).Sound ∧ ∀ op,
      Workshop.Outcome (Workshop.run ops) ((Workshop.run ops).accepted op)
        ((Workshop.run ops).givenLine? op) ((Workshop.run ops).step op) :=
  ⟨Workshop.sound_run ops, fun op => (Workshop.sound_run ops).outcome_step op⟩

/-- Nothing goes behind an unconditional guard, in a copy within a state either. -/
example :
    ((Workshop.run [
        .start "knock" 1 .transition, .start "Door" 2 .state,
        .perform 0 (.addGuard (.make "" (.set .nil) 3 [])), .give 1 0]).step
      (.perform 1 (.extendTransition "knock" (.make "late" (.set .nil) 4 [])))).1 =
      some (.guardAfterUnconditional "knock" 4) := by
  decide +kernel

end StateMachine
