import StateMachine.Execution.Session

/-!
# Runs of a Machine with Its Owner

A run works on a session and on the owner of the machine, and can be interrupted in two
ways: it is refused with a fault, or an action of the owner panics. Either way the session
and the owner keep what was done to them so far.

## Combinators

* `observe` turns a fault into a value and lets a panic pass.
* `attempt` turns every interrupt into a value, for `resume` to raise again later.
* `transact` runs actions without a current state and completes the transition even when
  they panic.
* `issue` names the transition in flight while a handler runs. A panic passes it by, and
  the name stays.
-/

namespace StateMachine.Execution

/-- How a run ends early. -/
inductive Interrupt where
  | fault (f : Fault)
  | panic
  deriving DecidableEq, Repr

/-- A session together with the owner of its machine. -/
structure Running (S O : Type) where
  session : Session S
  owner : O
  deriving DecidableEq, Repr

/-- A computation on a running machine and its owner. -/
abbrev Run (S O α : Type) := ExceptT Interrupt (StateM (Running S O)) α

namespace Run

variable {S O α : Type}

/-- Changes the session. -/
def onSession (f : Session S → Session S) : Run S O Unit :=
  modify fun w => { w with session := f w.session }

/-- Changes the owner. -/
def onOwner (f : O → O) : Run S O Unit :=
  modify fun w => { w with owner := f w.owner }

/-- Raises a refusal as an interrupt. -/
def accept : Except Fault α → Run S O α
  | .ok a => pure a
  | .error f => throw (.fault f)

/-- Changes the session by an operation that may be refused. -/
def trySession (f : Session S → Except Fault α × Session S) : Run S O α := do
  let w ← get
  let (result, session) := f w.session
  set { w with session }
  accept result

/-- The current state; refused while there is none. -/
def currentState : Run S O S := do
  accept (← get).session.context.state

/-- Makes `s` current. -/
def setState (roster : Roster S) (s : S) : Run S O Unit :=
  onSession (·.setState roster s)

/-- Leaves the current state. -/
def clearState : Run S O Unit :=
  onSession (·.update Context.clearState)

/-- Stacks the current state and makes `s` current. -/
def pushState (roster : Roster S) (s : S) : Run S O Unit :=
  onSession (·.pushState roster s)

/-- Returns to the top of the stack; refused if there is none. -/
def popState (roster : Roster S) : Run S O Unit :=
  trySession (·.popState roster)

/-- Forgets the stack. -/
def emptyStack : Run S O Unit :=
  onSession (·.update Context.emptyStack)

/-- Names the transition in flight. -/
def setTransition (name : String) : Run S O Unit :=
  onSession (·.update (·.setTransition name))

/-- Runs to the end or to a fault, which becomes a value. A panic passes. -/
def observe (run : Run S O α) : Run S O (Except Fault α) :=
  tryCatch (run >>= fun a => pure (.ok a)) fun
    | .fault f => pure (.error f)
    | .panic => throw .panic

/-- Runs to the end or to an interrupt, which becomes a value. -/
def attempt (run : Run S O Unit) : Run S O (Option Interrupt) :=
  tryCatch (run >>= fun _ => pure none) fun interrupt => pure (some interrupt)

/-- Raises an interrupt that `attempt` caught. -/
def resume : Option Interrupt → Run S O Unit
  | none => pure ()
  | some interrupt => throw interrupt

/-- Runs `actions` without a current state, then `complete`, then raises what interrupted
the actions. The answer is that of `complete`. -/
def transact (actions : Run S O Unit) (complete : Run S O α) : Run S O α := do
  clearState
  let interrupt ← attempt actions
  let answer ← complete
  resume interrupt
  return answer

/-- Runs the handler of the current state with `name` as the transition in flight. -/
def issue (name : String) (handler : S → Run S O Unit) : Run S O Unit := do
  setTransition name
  let result ← observe (currentState >>= handler)
  setTransition ""
  accept result

end Run

end StateMachine.Execution
