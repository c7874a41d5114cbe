import Mathlib.Data.List.Basic
import Mathlib.Data.List.Induction
import StateMachine.Traversal.Cursor

/-!
# What a Cursor Remembers

A cursor is moved by steps. A step enters a node of its level, or a guard by its index, and the
cursor forgets what it had entered on that level and further inside. Nothing keeps the steps in
order: a transition can be entered where no state was, and a map in the middle of a state.

Nor does anything bound the index of a guard. Whether it is the last one of its chain is found by
the word behind the index, and behind the greatest word comes 0.

## Main results

* `GuardPosition.isLast_iff`: the last guard of a chain is recognised, **but for the greatest
  index**.
* `Cursor.held?_enter_eq_some_iff`: what a cursor has on a level after one step.
* `Cursor.held?_walk_eq_some_iff`: after any steps it has what was entered by the step that
  **lasts**, the most recent one of the level that no step further out has followed.
* `cursor_answers_lasting_steps`: what a cursor answers after any steps, and what the positions
  among guards say.
* `greatest_index_last_of_none`: a guard that is taken to be the last one of none.

## Conventions

Steps are listed in the order in which they are taken, starting at the machine itself. Levels are
compared by their depths, the outermost one having depth 0.
-/

namespace StateMachine

/-! ### Positions among guards -/

namespace GuardPosition

/-- The word behind the index, which `isLast` computes, is not the number behind it. -/
def Overflows (p : GuardPosition) : Prop :=
  (p.index + 1).toNat ≠ p.index.toNat + 1

/-- The index is the last one of a chain that is not empty. -/
def Closes (p : GuardPosition) : Prop :=
  0 < p.count ∧ p.index.toNat = p.count - 1

variable (p : GuardPosition)

instance : Decidable p.Overflows :=
  inferInstanceAs (Decidable (_ ≠ _))

instance : Decidable p.Closes :=
  inferInstanceAs (Decidable (_ ∧ _))

/-- There is a word behind every index but the greatest. -/
theorem overflows_iff : p.Overflows ↔ p.index.toNat = UInt64.size - 1 := by
  have hindex := p.index.toNat_lt
  rw [Overflows, UInt64.toNat_add, UInt64.toNat_one, UInt64.size]
  omega

/-- The word behind an index is the number behind it, or 0 where that is no word. -/
theorem toNat_index_add_one :
    (p.index + 1).toNat = if p.Overflows then 0 else p.index.toNat + 1 := by
  split
  · next hoverflows =>
      rw [UInt64.toNat_add, UInt64.toNat_one, p.overflows_iff.mp hoverflows]
      rfl
  · next hfits => exact not_not.mp hfits

/-- The first guard of a chain has the index 0. -/
theorem isFirst_iff : p.isFirst = true ↔ p.index.toNat = 0 := by
  rw [isFirst, decide_eq_true_iff, ← UInt64.toNat_inj, UInt64.toNat_zero]

/-- A chain has several guards if it has more than one. -/
theorem isChained_iff : p.isChained = true ↔ 1 < p.count :=
  decide_eq_true_iff

/-- **Which guard is taken to be the last one.** Of a chain that is not empty it is the one with the
last index. But 0 is the word behind the greatest index, so that this is the last one of none. -/
theorem isLast_iff :
    p.isLast = true ↔ ¬ p.Overflows ∧ p.Closes ∨ p.Overflows ∧ p.count = 0 := by
  rw [isLast, decide_eq_true_iff, toNat_index_add_one, Closes]
  by_cases hoverflows : p.Overflows
  · simp only [hoverflows, if_true, not_true_eq_false, false_and, true_and, false_or, eq_comm]
  · simp only [hoverflows, if_false, not_false_eq_true, true_and, false_and, or_false]
    omega

end GuardPosition

/-! ### Steps -/

/-- How many levels lie outside of a level. -/
def Scope.depth : Scope → Nat
  | .map => 0
  | .state => 1
  | .transition => 2
  | .guard => 3

namespace Cursor

/-- A step into a level. -/
inductive Step where
  | map (map : Map)
  | state (state : State)
  | transition (t : Transition)
  | guard (index : UInt64)

/-- The level that a step enters. -/
def Step.scope : Step → Scope
  | .map _ => .map
  | .state _ => .state
  | .transition _ => .transition
  | .guard _ => .guard

/-- The cursor after a step. -/
def enter (c : Cursor) : Step → Cursor
  | .map map => c.enterMap map
  | .state state => c.enterState state
  | .transition t => c.enterTransition t
  | .guard index => c.enterGuard index

/-- The cursor after steps that start at the machine itself. -/
def walk (m : Machine) (steps : List Step) : Cursor :=
  steps.foldl enter (root m)

/-- What a cursor can have entered on a level. -/
inductive Entry where
  | map (map : Map)
  | state (state : State)
  | transition (t : Transition)
  | guard (p : GuardPosition)

/-- What a cursor has on a level. -/
def held? (c : Cursor) : Scope → Option Entry
  | .map => c.map?.map .map
  | .state => c.state?.map .state
  | .transition => c.transition?.map .transition
  | .guard => c.guard?.map .guard

/-- The number of guards of the transition that a cursor is in, and 0 outside of any. -/
def guardCount (c : Cursor) : Nat :=
  (c.transition?.map (·.guards.length)).getD 0

/-- What a step enters from where the cursor is. -/
def entered (c : Cursor) : Step → Entry
  | .map map => .map map
  | .state state => .state state
  | .transition t => .transition t
  | .guard index => .guard ⟨index, c.guardCount⟩

/-- The step that enters something. -/
def Entry.step : Entry → Step
  | .map node => .map node
  | .state node => .state node
  | .transition node => .transition node
  | .guard p => .guard p.index

/-- A step is known by what it has entered. -/
theorem step_entered (c : Cursor) (step : Step) : (c.entered step).step = step := by
  cases step <;> rfl

/-- At the machine itself, nothing is entered. -/
theorem held?_root (m : Machine) (scope : Scope) : (root m).held? scope = none := by
  cases scope <;> rfl

/-- **What a cursor has after a step.** The step sets its own level, resets those inside of it, and
leaves those outside of it alone. -/
theorem held?_enter_eq_some_iff {c : Cursor} {step : Step} {scope : Scope} {e : Entry} :
    (c.enter step).held? scope = some e ↔
      step.scope = scope ∧ c.entered step = e ∨
        scope.depth < step.scope.depth ∧ c.held? scope = some e := by
  cases step <;> cases scope <;>
    simp [enter, enterMap, enterState, enterTransition, enterGuard, held?, entered, guardCount,
      Step.scope, Scope.depth]

/-! ### Steps that last -/

/-- Of `steps`, `step` is the one taken behind `before`, and it lasts: all steps behind it go
further inside. So it is the most recent one of its level, and no outer level was entered since. -/
def Lasts (steps before : List Step) (step : Step) : Prop :=
  ∃ after, steps = before ++ step :: after ∧
    ∀ later ∈ after, step.scope.depth < later.scope.depth

/-- Where no step was taken, none lasts. -/
theorem not_lasts_nil {before : List Step} {step : Step} : ¬ Lasts [] before step := by
  rintro ⟨after, hsteps, -⟩
  simp at hsteps

/-- The last step lasts, and of those before it the ones that are further outside. -/
theorem lasts_concat_iff {steps before : List Step} {last step : Step} :
    Lasts (steps ++ [last]) before step ↔
      before = steps ∧ step = last ∨
        Lasts steps before step ∧ step.scope.depth < last.scope.depth := by
  constructor
  · rintro ⟨after, hsteps, hinside⟩
    rcases List.eq_nil_or_concat' after with rfl | ⟨after, later, rfl⟩
    · obtain ⟨rfl, hlast⟩ := List.append_inj' hsteps rfl
      exact .inl ⟨rfl, (List.singleton_inj.mp hlast).symm⟩
    · rw [← List.cons_append, ← List.append_assoc] at hsteps
      obtain ⟨rfl, hlast⟩ := List.append_inj' hsteps rfl
      obtain rfl := List.singleton_inj.mp hlast
      exact .inr ⟨⟨after, rfl, fun later hlater => hinside later (List.mem_append_left _ hlater)⟩,
        hinside last (List.mem_append_right _ List.mem_cons_self)⟩
  · rintro (⟨rfl, rfl⟩ | ⟨⟨after, rfl, hinside⟩, hlast⟩)
    · exact ⟨[], rfl, fun later hlater => absurd hlater List.not_mem_nil⟩
    · refine ⟨after ++ [last], by rw [List.append_assoc, List.cons_append], fun later hlater => ?_⟩
      rcases List.mem_append.mp hlater with hold | hnew
      · exact hinside later hold
      · rwa [List.mem_singleton.mp hnew]

variable {m : Machine} {steps : List Step}

/-- **What a cursor has after steps.** It has what was entered by the steps that last, and nothing
else. -/
theorem held?_walk_eq_some_iff {e : Entry} :
    (walk m steps).held? e.step.scope = some e ↔
      ∃ before, Lasts steps before e.step ∧ (walk m before).entered e.step = e := by
  -- the last step has entered `e`, or it goes further inside than the one that has
  induction steps using List.reverseRecOn with
  | nil =>
      rw [walk, List.foldl_nil, held?_root]
      simp [not_lasts_nil]
  | append_singleton steps last ih =>
      rw [walk, List.foldl_append, List.foldl_cons, List.foldl_nil, ← walk,
        held?_enter_eq_some_iff, ih]
      constructor
      · rintro (⟨-, hentered⟩ | ⟨hinside, before, hlasts, hentered⟩)
        · have hstep : e.step = last := by rw [← hentered, step_entered]
          rw [hstep]
          exact ⟨steps, lasts_concat_iff.mpr (.inl ⟨rfl, rfl⟩), hentered⟩
        · exact ⟨before, lasts_concat_iff.mpr (.inr ⟨hlasts, hinside⟩), hentered⟩
      · rintro ⟨before, hlasts, hentered⟩
        rcases lasts_concat_iff.mp hlasts with ⟨rfl, hstep⟩ | ⟨hold, hinside⟩
        · rw [hstep] at hentered ⊢
          exact .inl ⟨rfl, hentered⟩
        · exact .inr ⟨hinside, before, hold, hentered⟩

/-! ### The levels one by one -/

/-- The map that a cursor is in. -/
theorem map?_walk_eq_some_iff {map : Map} :
    (walk m steps).map? = some map ↔ ∃ before, Lasts steps before (.map map) := by
  simpa [held?, entered, Entry.step, Step.scope] using
    held?_walk_eq_some_iff (m := m) (e := .map map)

/-- The state that a cursor is in. -/
theorem state?_walk_eq_some_iff {state : State} :
    (walk m steps).state? = some state ↔ ∃ before, Lasts steps before (.state state) := by
  simpa [held?, entered, Entry.step, Step.scope] using
    held?_walk_eq_some_iff (m := m) (e := .state state)

/-- The transition that a cursor is in. -/
theorem transition?_walk_eq_some_iff {t : Transition} :
    (walk m steps).transition? = some t ↔ ∃ before, Lasts steps before (.transition t) := by
  simpa [held?, entered, Entry.step, Step.scope] using
    held?_walk_eq_some_iff (m := m) (e := .transition t)

/-- After `steps`, there are `count` guards in the transition whose step lasts; if none does, there
are 0. -/
def CountsGuards (steps : List Step) (count : Nat) : Prop :=
  (∃ before t, Lasts steps before (.transition t) ∧ count = t.guards.length) ∨
    (∀ before t, ¬ Lasts steps before (.transition t)) ∧ count = 0

/-- Guards are counted in the transition that the cursor is in. -/
theorem guardCount_walk_eq_iff {count : Nat} :
    (walk m steps).guardCount = count ↔ CountsGuards steps count := by
  cases ht : (walk m steps).transition? with
  | none =>
      have hnone : ∀ before t, ¬ Lasts steps before (.transition t) := by
        intro before t hlasts
        have hsome := (transition?_walk_eq_some_iff (m := m)).mpr ⟨before, hlasts⟩
        rw [ht] at hsome
        cases hsome
      simp [guardCount, ht, CountsGuards, hnone, eq_comm]
  | some t =>
      obtain ⟨before, hlasts⟩ := transition?_walk_eq_some_iff.mp ht
      rw [guardCount, ht, Option.map_some, Option.getD_some]
      constructor
      · rintro rfl
        exact .inl ⟨before, t, hlasts, rfl⟩
      · rintro (⟨before', t', hlasts', rfl⟩ | ⟨hnone, -⟩)
        · have ht' := (transition?_walk_eq_some_iff (m := m)).mpr ⟨before', hlasts'⟩
          rw [ht, Option.some.injEq] at ht'
          rw [ht']
        · exact absurd hlasts (hnone before t)

/-- The guard that a cursor is at, with its place among those counted when it was entered. -/
theorem guard?_walk_eq_some_iff {p : GuardPosition} :
    (walk m steps).guard? = some p ↔
      ∃ before, Lasts steps before (.guard p.index) ∧ CountsGuards before p.count := by
  have hentered (c : Cursor) : c.entered (.guard p.index) = .guard p ↔ c.guardCount = p.count := by
    cases p
    simp [entered]
  simpa [held?, hentered, guardCount_walk_eq_iff, Entry.step, Step.scope] using
    held?_walk_eq_some_iff (m := m) (e := .guard p)

/-! ### Answers -/

/-- The answer `x` about a level is what was `entered` there, and where nothing was, the fault that
this level is missing. -/
structure Answers {α : Type} (scope : Scope) (x : Except OutsideScope α) (entered : α → Prop) :
    Prop where
  eq_ok_iff : ∀ a, x = .ok a ↔ entered a
  eq_error_iff : ∀ e, x = .error e ↔ e = ⟨scope⟩ ∧ ∀ a, ¬ entered a

/-- A level that is looked up is answered with what is found. -/
theorem answers_elim {α : Type} (scope : Scope) {found : Option α} {entered : α → Prop}
    (h : ∀ a, found = some a ↔ entered a) :
    Answers scope (found.elim (.error ⟨scope⟩) .ok) entered := by
  constructor
  · intro a
    rw [← h]
    cases found <;> simp
  · intro e
    simp only [← h]
    cases found <;> simp [eq_comm]

/-- The map is looked up. -/
theorem map_eq_elim (c : Cursor) : c.map = c.map?.elim (.error ⟨.map⟩) .ok := by
  cases h : c.map? <;> simp [Cursor.map, h]

/-- So is the state. -/
theorem state_eq_elim (c : Cursor) : c.state = c.state?.elim (.error ⟨.state⟩) .ok := by
  cases h : c.state? <;> simp [Cursor.state, h]

/-- So is the transition. -/
theorem transition_eq_elim (c : Cursor) :
    c.transition = c.transition?.elim (.error ⟨.transition⟩) .ok := by
  cases h : c.transition? <;> simp [Cursor.transition, h]

/-- So is the position among guards. -/
theorem guard_eq_elim (c : Cursor) : c.guard = c.guard?.elim (.error ⟨.guard⟩) .ok := by
  cases h : c.guard? <;> simp [Cursor.guard, h]

end Cursor

open Cursor

/-- **What a cursor answers** after any steps from the machine on. Asked for its map, state or
transition, it gives what was entered by the most recent step of this level that no step further
out has followed. Asked for its guard, it gives the index of that step, with the number of guards of
the transition that the cursor was in at that step. Where there is no such step, it has no answer.

A position among guards is the first one at the index 0, and has others beside it if more than one
guard is counted. It is the last one exactly at the last index of a chain that is not empty, unless
the index is the greatest word. There the word behind it **overflows**, and the position is the last
one exactly if no guard is counted. -/
theorem cursor_answers_lasting_steps (m : Machine) (steps : List Step) :
    Answers .map (walk m steps).map (fun map => ∃ before, Lasts steps before (.map map)) ∧
      Answers .state (walk m steps).state
        (fun state => ∃ before, Lasts steps before (.state state)) ∧
      Answers .transition (walk m steps).transition
        (fun t => ∃ before, Lasts steps before (.transition t)) ∧
      Answers .guard (walk m steps).guard
        (fun p => ∃ before, Lasts steps before (.guard p.index) ∧ CountsGuards before p.count) ∧
      ∀ p : GuardPosition,
        (p.isFirst = true ↔ p.index.toNat = 0) ∧ (p.isChained = true ↔ 1 < p.count) ∧
          (p.Overflows ↔ p.index.toNat = UInt64.size - 1) ∧
          (p.isLast = true ↔ ¬ p.Overflows ∧ p.Closes ∨ p.Overflows ∧ p.count = 0) := by
  rw [map_eq_elim, state_eq_elim, transition_eq_elim, guard_eq_elim]
  refine ⟨answers_elim .map fun _ => map?_walk_eq_some_iff,
    answers_elim .state fun _ => state?_walk_eq_some_iff,
    answers_elim .transition fun _ => transition?_walk_eq_some_iff,
    answers_elim .guard fun _ => guard?_walk_eq_some_iff, fun p => ?_⟩
  exact ⟨p.isFirst_iff, p.isChained_iff, p.overflows_iff, p.isLast_iff⟩

/-- In a transition without guards, the guard of the greatest index is taken to be the last one: the
word behind the index overflows to 0, which is how many guards there are. -/
theorem greatest_index_last_of_none :
    let t : Transition := { name := "Open" }
    let s : State := { className := "Shut", transitions := [t] }
    let map : Map := { name := "Main", states := [s] }
    let p : GuardPosition := ⟨UInt64.ofNat (UInt64.size - 1), 0⟩
    (walk { context := "Door", maps := [map] }
        [.map map, .state s, .transition t, .guard p.index]).guard = .ok p ∧
      p.Overflows ∧
      ¬ ∀ (m : Machine) (steps : List Step) (p : GuardPosition), (walk m steps).guard = .ok p →
        (p.isLast = true ↔ p.Closes) := by
  intro t s map p
  have hguard : (walk { context := "Door", maps := [map] }
      [.map map, .state s, .transition t, .guard p.index]).guard = .ok p := rfl
  refine ⟨hguard, by decide, fun hexact => ?_⟩
  have hlast : p.isLast = true := by decide
  have hempty : ¬ p.Closes := by decide
  exact hempty ((hexact _ _ p hguard).mp hlast)

end StateMachine
