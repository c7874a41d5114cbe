import StateMachine.Proofs.Execution.Restore
import StateMachine.Proofs.Execution.Run

/-!
# Brackets of a Push and a Pop

A machine pushes a state to do something there and pops it to go on where it was. Between the two
it may change its state and push and pop again, as long as each push has its pop. Then the last
pop comes back to the state and the stack that the first push left.

`Operation` lists what can be done to a session, and `Balanced` the sequences that may stand
between a push and its pop. Pushing stacks the current state, and stacks nothing where there is
none. So it is part of what a balanced sequence keeps that there is a current state, although the
state may be cleared for a moment within it.

## Main results

* `Balanced.nested`: a balanced sequence is never refused, keeps what is stacked below it, and
  ends with a current state and **the stack it began with**.
* `push_pop_returns`: around a balanced sequence, a push and a pop **return** to the state and the
  stack before the push, and in between these are the bottom of the stack.

## Conventions

* Operations are performed one after the other, also after one that was refused. `trail` holds
  what they answer, each with the session that it leaves.
* Stacks are read from the bottom up, so that what stands at the bottom is a prefix.
-/

namespace StateMachine.Execution.Session

variable {S : Type} {roster : Roster S} {x : Session S}

/-! ### Operations -/

/-- What can be done to a session. -/
inductive Operation (S : Type) where
  | setState (s : S)
  | clearState
  | pushState (s : S)
  | popState
  | emptyStack
  | setTransition (name : String)
  | setDebug (debug : Bool)
  | trace (message : String)
  | restore (ids : List Nat)

/-- The answer to an operation, and the session that it leaves. -/
def perform (roster : Roster S) (x : Session S) : Operation S → Except Fault Unit × Session S
  | .setState s => (.ok (), x.setState roster s)
  | .clearState => (.ok (), x.update Context.clearState)
  | .pushState s => (.ok (), x.pushState roster s)
  | .popState => x.popState roster
  | .emptyStack => (.ok (), x.update Context.emptyStack)
  | .setTransition name => (.ok (), x.update (·.setTransition name))
  | .setDebug debug => (.ok (), x.update (·.setDebug debug))
  | .trace message => (.ok (), x.trace message)
  | .restore ids => x.restore roster ids

/-- The answers to operations, each with the session that it leaves. -/
def trail (roster : Roster S) (x : Session S) :
    List (Operation S) → List (Except Fault Unit × Session S)
  | [] => []
  | op :: rest => x.perform roster op :: trail roster (x.perform roster op).2 rest

/-- The session after operations. -/
def performAll (roster : Roster S) (x : Session S) : List (Operation S) → Session S
  | [] => x
  | op :: rest => performAll roster (x.perform roster op).2 rest

/-- The trail of two sequences is that of the one and, from where it ended, that of the other. -/
theorem trail_append (before after : List (Operation S)) :
    x.trail roster (before ++ after) =
      x.trail roster before ++ (x.performAll roster before).trail roster after := by
  induction before generalizing x with
  | nil => rfl
  | cons op rest ih => rw [List.cons_append, trail, trail, ih, performAll, List.cons_append]

/-- So is what they leave. -/
theorem performAll_append (before after : List (Operation S)) :
    x.performAll roster (before ++ after) =
      (x.performAll roster before).performAll roster after := by
  induction before generalizing x with
  | nil => rfl
  | cons op rest ih => rw [List.cons_append, performAll, ih, performAll]

/-- Setting the state leaves the stack alone. -/
theorem stack_setState (s : S) : (x.setState roster s).context.stack = x.context.stack := by
  simp [setState, update, Context.setState]

/-- Where there is a current state, a push stacks it. -/
theorem perform_pushState (roster : Roster S) {s : S} (hs : x.context.state? = some s) (t : S) :
    ∃ y, x.perform roster (.pushState t) = (.ok (), y) ∧ y.context.state? = some t ∧
      y.context.stack = x.context.stack ++ [s] :=
  ⟨_, rfl, rfl, by simp [pushState, update, Context.pushState, hs]⟩

/-- A pop makes current what was stacked last. -/
theorem perform_popState (roster : Roster S) {below : List S} {s : S}
    (hstack : x.context.stack = below ++ [s]) :
    ∃ y, x.perform roster .popState = (.ok (), y) ∧ y.context.state? = some s ∧
      y.context.stack = below := by
  have hpop : x.context.popState? =
      some (s, { x.context with stack := below, state? := some s }) := by
    rw [Context.popState?, hstack, List.getLast?_concat, List.dropLast_concat, Option.map_some]
  rw [perform, popState, hpop]
  exact ⟨_, rfl, rfl, rfl⟩

/-! ### Balanced sequences -/

/-- The sequences in which each push has its pop, and the state is cleared only to be set. -/
inductive Balanced : List (Operation S) → Prop
  | nil : Balanced []
  | setState (s : S) : Balanced [.setState s]
  | clearState (s : S) : Balanced [.clearState, .setState s]
  | setTransition (name : String) : Balanced [.setTransition name]
  | setDebug (debug : Bool) : Balanced [.setDebug debug]
  | trace (message : String) : Balanced [.trace message]
  | append {before after : List (Operation S)} :
      Balanced before → Balanced after → Balanced (before ++ after)
  | bracket (s : S) {inner : List (Operation S)} :
      Balanced inner → Balanced (.pushState s :: (inner ++ [.popState]))

/-- From `x` on no operation is refused, the stack is never below that of `x` and equal to it in
the end, and in the end there is a current state. -/
structure Nested (roster : Roster S) (x : Session S) (ops : List (Operation S)) : Prop where
  accepted : ∀ step ∈ x.trail roster ops, step.1 = .ok ()
  above : ∀ step ∈ x.trail roster ops, x.context.stack <+: step.2.context.stack
  stack_eq : (x.performAll roster ops).context.stack = x.context.stack
  exists_state : ∃ s, (x.performAll roster ops).context.state? = some s

namespace Nested

/-- Doing nothing keeps the state. -/
theorem nil {s : S} (hs : x.context.state? = some s) : Nested roster x [] where
  accepted _ hstep := absurd hstep List.not_mem_nil
  above _ hstep := absurd hstep List.not_mem_nil
  stack_eq := rfl
  exists_state := ⟨s, hs⟩

/-- An operation that leaves the stack alone can come first. -/
theorem cons {op : Operation S} {rest : List (Operation S)} {y : Session S}
    (hop : x.perform roster op = (.ok (), y)) (hstack : y.context.stack = x.context.stack)
    (h : Nested roster y rest) : Nested roster x (op :: rest) := by
  constructor
  · rw [trail, hop, List.forall_mem_cons]
    exact ⟨rfl, h.accepted⟩
  · rw [trail, hop, List.forall_mem_cons, ← hstack]
    exact ⟨List.prefix_rfl, h.above⟩
  · rw [performAll, hop, h.stack_eq, hstack]
  · rw [performAll, hop]
    exact h.exists_state

/-- One such operation after which there is a current state. -/
theorem singleton {op : Operation S} {y : Session S} {s : S}
    (hop : x.perform roster op = (.ok (), y)) (hstack : y.context.stack = x.context.stack)
    (hs : y.context.state? = some s) : Nested roster x [op] :=
  cons hop hstack (nil hs)

/-- One sequence after the other. -/
theorem append {before after : List (Operation S)} (hbefore : Nested roster x before)
    (hafter : Nested roster (x.performAll roster before) after) :
    Nested roster x (before ++ after) := by
  constructor
  · rw [trail_append, List.forall_mem_append]
    exact ⟨hbefore.accepted, hafter.accepted⟩
  · rw [trail_append, List.forall_mem_append]
    exact ⟨hbefore.above, hbefore.stack_eq ▸ hafter.above⟩
  · rw [performAll_append, hafter.stack_eq, hbefore.stack_eq]
  · rw [performAll_append]
    exact hafter.exists_state

section

variable {y : Session S} {s t : S} {inner : List (Operation S)}

/-- While what was pushed is there, nothing is refused, and the stack is above what it was put
on. -/
theorem between (hpush : x.perform roster (.pushState t) = (.ok (), y))
    (hstack : y.context.stack = x.context.stack ++ [s]) (hinner : Nested roster y inner) :
    ∀ step ∈ x.trail roster (.pushState t :: inner),
      step.1 = .ok () ∧ x.context.stack ++ [s] <+: step.2.context.stack := by
  rw [trail, hpush, List.forall_mem_cons, ← hstack]
  exact ⟨⟨rfl, List.prefix_rfl⟩, fun step hstep => ⟨hinner.accepted step hstep,
    hinner.above step hstep⟩⟩

/-- Then the pop finds on top of the stack the state that the push left. -/
theorem exists_popped (hpush : x.perform roster (.pushState t) = (.ok (), y))
    (hstack : y.context.stack = x.context.stack ++ [s]) (hinner : Nested roster y inner) :
    ∃ z, z.context.state? = some s ∧ z.context.stack = x.context.stack ∧
      x.performAll roster (.pushState t :: (inner ++ [.popState])) = z ∧
      x.trail roster (.pushState t :: (inner ++ [.popState])) =
        x.trail roster (.pushState t :: inner) ++ [(.ok (), z)] := by
  obtain ⟨z, hpop, hz, hbelow⟩ :=
    perform_popState roster (hinner.stack_eq.trans hstack)
  refine ⟨z, hz, hbelow, ?_, ?_⟩
  · rw [performAll, hpush, performAll_append, performAll, hpop, performAll]
  · rw [trail, trail, hpush, trail_append, trail, hpop, trail, List.cons_append]

end

/-- **A bracket is nested** if what stands in it is nested wherever the state that was pushed is
current. -/
theorem bracket {s : S} (hs : x.context.state? = some s) {t : S} {inner : List (Operation S)}
    (hinner : ∀ y : Session S, y.context.state? = some t → Nested roster y inner) :
    Nested roster x (.pushState t :: (inner ++ [.popState])) := by
  obtain ⟨y, hpush, hy, hstack⟩ := perform_pushState roster hs t
  have hbetween := between hpush hstack (hinner y hy)
  obtain ⟨z, hz, hbelow, hend, htrail⟩ := exists_popped hpush hstack (hinner y hy)
  constructor
  · rw [htrail, List.forall_mem_append]
    exact ⟨fun step hstep => (hbetween step hstep).1, List.forall_mem_singleton.mpr rfl⟩
  · rw [htrail, List.forall_mem_append, List.forall_mem_singleton, hbelow]
    exact ⟨fun step hstep => (List.prefix_append _ _).trans (hbetween step hstep).2,
      List.prefix_rfl⟩
  · rw [hend, hbelow]
  · exact ⟨s, hend ▸ hz⟩

end Nested

/-- **Balanced sequences are nested**, wherever they begin with a current state. -/
theorem Balanced.nested {ops : List (Operation S)} (h : Balanced ops) {s : S}
    (hs : x.context.state? = some s) : Nested roster x ops := by
  induction h generalizing x s with
  | nil => exact .nil hs
  | setState t => exact .singleton rfl (stack_setState t) rfl
  | clearState t => exact .cons rfl rfl (.singleton rfl (stack_setState t) rfl)
  | setTransition name => exact .singleton rfl rfl hs
  | setDebug debug => exact .singleton rfl rfl hs
  | trace message =>
      exact .singleton rfl (by rw [context_trace]) (by rw [context_trace, hs])
  | append _ _ ihbefore ihafter =>
      have hbefore := ihbefore hs
      obtain ⟨t, ht⟩ := hbefore.exists_state
      exact hbefore.append (ihafter ht)
  | bracket t _ ih => exact .bracket hs fun y hy => ih hy

/-- **A pop returns to where its push was.** In a session with the current state `s`, let `t` be
pushed, operations follow in which each push has its pop and the state is cleared only to be set,
and a pop. Nothing of this is refused; the session is in the state `s` again, with the stack as it
was; and from the push to the pop the bottom of the stack is that stack, followed by `s`. -/
theorem push_pop_returns (roster : Roster S) (x : Session S) {s : S}
    (hs : x.context.state? = some s) (t : S) {inner : List (Operation S)}
    (hinner : Balanced inner) :
    (∀ step ∈ x.trail roster (.pushState t :: (inner ++ [.popState])), step.1 = .ok ()) ∧
      (x.performAll roster (.pushState t :: (inner ++ [.popState]))).context.state? = some s ∧
      (x.performAll roster (.pushState t :: (inner ++ [.popState]))).context.stack =
        x.context.stack ∧
      ∀ step ∈ x.trail roster (.pushState t :: inner),
        x.context.stack ++ [s] <+: step.2.context.stack := by
  obtain ⟨y, hpush, hy, hstack⟩ := perform_pushState roster hs t
  have hbetween := Nested.between hpush hstack (hinner.nested hy)
  obtain ⟨z, hz, hbelow, hend, htrail⟩ := Nested.exists_popped hpush hstack (hinner.nested hy)
  rw [hend, htrail, List.forall_mem_append]
  exact ⟨⟨fun step hstep => (hbetween step hstep).1, List.forall_mem_singleton.mpr rfl⟩, hz, hbelow,
    fun step hstep => (hbetween step hstep).2⟩

/-- A machine in the state `A`, above `B`, is traced; it pushes `B` and leaves that state for `A`,
from which it pushes `B` once more. Both pops return. -/
theorem nested_brackets_return :
    let x : Session Bool := { context := { state? := some false, stack := [true], debug := true } }
    let inner : List (Operation Bool) :=
      [.clearState, .setState false] ++ (.pushState true :: ([.setTransition "Go"] ++ [.popState]))
    let ops := .pushState true :: (inner ++ [.popState])
    x.context.state? = some false ∧ Balanced inner ∧
      (∀ step ∈ x.trail Context.twoStates ops, step.1 = .ok ()) ∧
      (x.performAll Context.twoStates ops).context.state? = some false ∧
      (x.performAll Context.twoStates ops).context.stack = [true] ∧
      ∀ step ∈ x.trail Context.twoStates (.pushState true :: inner),
        [true, false] <+: step.2.context.stack := by
  intro x inner ops
  have hinner : Balanced inner := .append (.clearState false) (.bracket true (.setTransition "Go"))
  exact ⟨rfl, hinner, push_pop_returns Context.twoStates x rfl true hinner⟩

/-- Where there is no current state, a push stacks nothing, and its pop is refused. -/
example : ((({ context := { state? := none } } : Session Bool).trail Context.twoStates
    [.pushState true, .popState]).map Prod.fst) = [.ok (), .error .emptyStack] := rfl

end StateMachine.Execution.Session
