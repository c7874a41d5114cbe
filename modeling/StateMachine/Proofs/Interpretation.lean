import StateMachine.Proofs.Execution.Run
import StateMachine.Proofs.Reachability

/-!
# Interpreting a Description

A machine can be run as it is described, without a program for it. An interpretation stands
in a place and keeps a stack of places and an owner. What the texts of the description mean,
its conditions, actions and arguments, is up to a `Meaning`.

## Issuing a transition

1. The guards that may answer are tried in order (`Program.Candidate.all`): those of the
   transition in the state and in the default state of its map, then those of `Default` in
   the state and in the default state. The first that is unconditional or holds is taken. If
   there is none, the transition is undefined.
2. A set leaves the state, runs the actions and enters the end state. A set to `nil` only
   runs the actions, and so does a set in a default state whose end state is the state the
   machine is in.
3. A push runs the actions, stacks the end state, or the state the machine is in for `nil`,
   and enters the pushed state. It leaves no state.
4. A pop leaves the state, runs the actions and returns to the top of the stack, where it
   issues its transition, if it has one.

An action that panics ends the actions, but not the transition: the state and the stack
change and the new state is entered before the panic goes on. It goes before the refusal of
an empty stack and before the transition of a pop. A panic while a state is left ends the
transition at once.

## Main results

* `Machine.length_stack_of_fire`: a transition is issued after a pop only, with a smaller
  stack, so that issuing comes to an end.
* `Machine.issue_of_ends`, `Machine.issue_of_issues`, `Machine.issue_of_none`: what issuing a
  transition does, by what the guard does that answers.
-/

namespace StateMachine

open Execution Run

/-- What the texts of a description mean to an owner. Parameters of a transition stand for
values. -/
structure Meaning (O V : Type) where
  /-- Whether a condition holds. -/
  holds : List (String × V) → String → O → Bool
  /-- What an action does to the owner, and whether it panics. -/
  perform : List (String × V) → Action → O → O × Bool
  /-- The value of an argument. -/
  value : List (String × V) → String → O → V

/-- Where an interpretation stands. -/
structure Configuration (O : Type) where
  state : Place
  /-- The places to return to, the latest last. -/
  stack : List Place := []
  owner : O
  deriving DecidableEq, Repr

/-- What a guard does that is taken. -/
inductive Firing (O V : Type) where
  | ends (result : Except Interrupt Unit) (c : Configuration O)
  /-- A transition is issued with arguments in the place that the guard returns to. -/
  | issues (name : String) (args : List V) (c : Configuration O)

/-- The place that a reference means in the map of the given name. -/
def Reference.place (r : Reference) (map : String) : Place :=
  ⟨r.mapOr map, r.state⟩

/-- What the parameters of the transition of a candidate stand for, by position. -/
def Program.Candidate.bindings {V : Type} (k : Program.Candidate) (args : List V) :
    List (String × V) :=
  (k.transition.parameters.map Parameter.name).zip args

/-- Whether a guard to the place `target` is taken without leaving the place `state` and
entering it again. -/
def Program.Candidate.remains (k : Program.Candidate) (state target : Place) : Bool :=
  k.state.isDefault && state = target

section

variable {O V : Type}

/-- Runs actions in order until one panics, and says whether one did. -/
def Meaning.actions (μ : Meaning O V) (bs : List (String × V)) :
    List Action → Configuration O → Bool × Configuration O
  | [], c => (false, c)
  | a :: rest, c =>
    match a.receiver with
    | .context => μ.actions bs rest { c with stack := [] }
    | .owner =>
      match μ.perform bs a c.owner with
      | (owner, true) => (true, { c with owner })
      | (owner, false) => μ.actions bs rest { c with owner }

/-- Actions may empty the stack, and do no more to it. -/
theorem Meaning.length_stack_actions (μ : Meaning O V) (bs : List (String × V))
    (as : List Action) (c : Configuration O) :
    (μ.actions bs as c).2.stack.length ≤ c.stack.length := by
  fun_induction μ.actions bs as c with
  | case1 => exact Nat.le_refl _
  | case2 c _ _ _ ih => exact Nat.le_trans ih (Nat.zero_le _)
  | case3 => exact Nat.le_refl _
  | case4 c _ _ _ _ _ ih => exact ih

namespace Machine

/-- The ordinary state at a place, with its map. -/
def at? (m : Machine) (place : Place) : Option Location :=
  m.resolve? (.qualified place.map place.state) place.map

/-- Leaves the state at a place. -/
def leave (m : Machine) (μ : Meaning O V) (place : Place) (c : Configuration O) :
    Bool × Configuration O :=
  μ.actions [] ((m.at? place).elim [] fun x => x.2.exitActions) c

/-- Leaving a state does not make the stack larger. -/
theorem length_stack_leave (m : Machine) (μ : Meaning O V) (place : Place)
    (c : Configuration O) : (m.leave μ place c).2.stack.length ≤ c.stack.length :=
  μ.length_stack_actions [] _ c

/-- Enters the state at a place. -/
def enter (m : Machine) (μ : Meaning O V) (place : Place) (c : Configuration O) :
    Bool × Configuration O :=
  μ.actions [] ((m.at? place).elim [] fun x => x.2.entryActions) c

/-- Takes the guard of a candidate in the map `map`. -/
def fire (m : Machine) (μ : Meaning O V) (map : Map) (k : Program.Candidate) (args : List V)
    (c : Configuration O) : Firing O V :=
  let act := μ.actions (k.bindings args) k.guard.actions
  match k.guard.transfer with
  | .set .nil =>
    let (panics, c) := act c
    .ends (raised panics) c
  | .set (.named r) =>
    let target := r.place map.name
    if k.remains c.state target then
      let (panics, c) := act c
      .ends (raised panics) c
    else
      match m.leave μ c.state c with
      | (true, c) => .ends (.error .panic) c
      | (false, c) =>
        let (panics, c) := act c
        let (panics', c) := m.enter μ target { c with state := target }
        .ends (raised (panics || panics')) c
  | .push e r =>
    let below := (e.reference?.map (Reference.place · map.name)).getD c.state
    let pushed := r.place map.name
    let (panics, c) := act c
    let (panics', c) := m.enter μ pushed { c with state := pushed, stack := c.stack ++ [below] }
    .ends (raised (panics || panics')) c
  | .pop transition _ =>
    match m.leave μ c.state c with
    | (true, c) => .ends (.error .panic) c
    | (false, c) =>
      let (panics, c) := act c
      match c.stack.getLast? with
      | none => .ends (if panics then .error .panic else .error (.fault .emptyStack)) c
      | some top =>
        let c := { c with state := top, stack := c.stack.dropLast }
        match panics, transition with
        | false, some name =>
          .issues name (k.guard.popArguments.map fun a => μ.value (k.bindings args) a c.owner) c
        | panics, _ => .ends (raised panics) c

/-- What a pop does when there is a place to return to. -/
theorem fire_pop {m : Machine} {μ : Meaning O V} {map : Map} {k : Program.Candidate}
    {args : List V} {c c₁ c₂ : Configuration O} {transition : Option String}
    {arguments : List String} {panics : Bool} {top : Place}
    (htransfer : k.guard.transfer = .pop transition arguments)
    (hleave : m.leave μ c.state c = (false, c₁))
    (hact : μ.actions (k.bindings args) k.guard.actions c₁ = (panics, c₂))
    (htop : c₂.stack.getLast? = some top) :
    m.fire μ map k args c =
      match panics, transition with
      | false, some name =>
        .issues name (k.guard.popArguments.map fun a => μ.value (k.bindings args) a c₂.owner)
          { c₂ with state := top, stack := c₂.stack.dropLast }
      | panics, _ =>
        .ends (raised panics) { c₂ with state := top, stack := c₂.stack.dropLast } := by
  unfold fire
  simp only [htransfer, hleave, hact, htop]
  cases panics <;> cases transition <;> rfl

/-- What a pop does when there is none. -/
theorem fire_pop_empty {m : Machine} {μ : Meaning O V} {map : Map} {k : Program.Candidate}
    {args : List V} {c c₁ c₂ : Configuration O} {transition : Option String}
    {arguments : List String} {panics : Bool}
    (htransfer : k.guard.transfer = .pop transition arguments)
    (hleave : m.leave μ c.state c = (false, c₁))
    (hact : μ.actions (k.bindings args) k.guard.actions c₁ = (panics, c₂))
    (hempty : c₂.stack.getLast? = none) :
    m.fire μ map k args c =
      .ends (if panics then .error .panic else .error (.fault .emptyStack)) c₂ := by
  unfold fire
  simp only [htransfer, hleave, hact, hempty]

/-- **A transition is issued with a smaller stack.** -/
theorem length_stack_of_fire {m : Machine} {μ : Meaning O V} {map : Map}
    {k : Program.Candidate} {args : List V} {c : Configuration O} {name : String}
    {args' : List V} {c' : Configuration O}
    (h : m.fire μ map k args c = .issues name args' c') : c'.stack.length < c.stack.length := by
  unfold fire at h
  cases htransfer : k.guard.transfer with
  | set e =>
      cases e with
      | nil => simp [htransfer] at h
      | named r =>
          simp only [htransfer] at h
          split at h
          · cases h
          · split at h <;> cases h
  | push e r => simp [htransfer] at h
  | pop transition arguments =>
      simp only [htransfer] at h
      split at h
      · cases h
      · next c₁ hleave =>
          have hleft : c₁.stack.length ≤ c.stack.length := by
            have hle := m.length_stack_leave μ c.state c
            rwa [hleave] at hle
          have hacted := μ.length_stack_actions (k.bindings args) k.guard.actions c₁
          split at h
          · cases h
          · next top htop =>
              split at h
              · obtain ⟨-, -, rfl⟩ := Firing.issues.inj h
                have hne : (μ.actions (k.bindings args) k.guard.actions c₁).2.stack ≠ [] := by
                  intro hnil
                  rw [hnil] at htop
                  cases htop
                have hpos := List.length_pos_iff.mpr hne
                rw [List.length_dropLast]
                omega
              · cases h

/-- The guard that answers the transition `name`, with the map that it stands in. -/
def answer? (m : Machine) (μ : Meaning O V) (name : String) (args : List V)
    (c : Configuration O) : Option (Map × Program.Candidate) :=
  (m.at? c.state).bind fun (map, s) =>
    ((Program.Candidate.all map s name).find? fun k =>
      k.guard.isUnconditional || μ.holds (k.bindings args) k.guard.condition c.owner).map
        fun k => (map, k)

/-- **Issues the transition `name`** with arguments. -/
def issue (m : Machine) (μ : Meaning O V) (name : String) (args : List V)
    (c : Configuration O) : Except Interrupt Unit × Configuration O :=
  match m.answer? μ name args c with
  | none => (.error (.fault (.undefined (scopedName c.state.state c.state.map) name)), c)
  | some (map, k) =>
    match _h : m.fire μ map k args c with
    | .ends result c' => (result, c')
    | .issues name' args' c' => m.issue μ name' args' c'
termination_by c.stack.length
decreasing_by exact length_stack_of_fire ‹_›

/-- A transition that no guard answers is undefined. -/
theorem issue_of_none {m : Machine} {μ : Meaning O V} {name : String} {args : List V}
    {c : Configuration O} (h : m.answer? μ name args c = none) :
    m.issue μ name args c =
      (.error (.fault (.undefined (scopedName c.state.state c.state.map) name)), c) := by
  rw [issue, h]

/-- A transition is over when the guard that answers is done. -/
theorem issue_of_ends {m : Machine} {μ : Meaning O V} {name : String} {args : List V}
    {c c' : Configuration O} {map : Map} {k : Program.Candidate} {result : Except Interrupt Unit}
    (h : m.answer? μ name args c = some (map, k))
    (hfire : m.fire μ map k args c = .ends result c') :
    m.issue μ name args c = (result, c') := by
  rw [issue, h]
  simp only
  split
  · next hends =>
      obtain ⟨rfl, rfl⟩ := Firing.ends.inj (hfire.symm.trans hends)
      rfl
  · next hissues => cases hfire.symm.trans hissues

/-- Otherwise it goes on as the transition that the guard issues. -/
theorem issue_of_issues {m : Machine} {μ : Meaning O V} {name name' : String}
    {args args' : List V} {c c' : Configuration O} {map : Map} {k : Program.Candidate}
    (h : m.answer? μ name args c = some (map, k))
    (hfire : m.fire μ map k args c = .issues name' args' c') :
    m.issue μ name args c = m.issue μ name' args' c' := by
  rw [issue, h]
  simp only
  split
  · next hends => cases hfire.symm.trans hends
  · next hissues =>
      obtain ⟨rfl, rfl, rfl⟩ := Firing.issues.inj (hfire.symm.trans hissues)
      rfl

end Machine

/-- Enters the start state of a valid machine. -/
def Validated.enterStartState (v : Validated) (μ : Meaning O V) (owner : O) :
    Except Interrupt Unit × Configuration O :=
  let start := v.standing.current.place
  let (panics, c) := v.machine.enter μ start { state := start, owner }
  (raised panics, c)

end

end StateMachine
