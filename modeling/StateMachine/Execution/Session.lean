import StateMachine.Execution.Context

/-!
# Traced Sessions

A session is a context together with the messages traced so far. Each operation of the
context that changes the state says so in a message, which is recorded while the context
traces.
-/

namespace StateMachine.Execution

/-- A context and its trace, the latest message last. -/
structure Session (S : Type) where
  context : Context S
  messages : List String := []
  deriving DecidableEq, Repr

namespace Session

variable {S : Type}

/-- Records a message, if the context traces. -/
def trace (x : Session S) (message : String) : Session S :=
  if x.context.debug then { x with messages := x.messages ++ [message] } else x

/-- Changes the context and records nothing. -/
def update (x : Session S) (f : Context S → Context S) : Session S :=
  { x with context := f x.context }

/-- Makes `s` current. -/
def setState (roster : Roster S) (x : Session S) (s : S) : Session S :=
  (x.trace ("NEW STATE    : " ++ roster.name s)).update (·.setState s)

/-- Stacks the current state, if there is one, and makes `s` current. -/
def pushState (roster : Roster S) (x : Session S) (s : S) : Session S :=
  (x.trace ("PUSH TO STATE: " ++ roster.name s)).update (·.pushState s)

/-- Returns to the top of the stack; refused if there is none. -/
def popState (roster : Roster S) (x : Session S) : Except Fault Unit × Session S :=
  match x.context.popState? with
  | none => (.error .emptyStack, x.trace "POPPING ON EMPTY STATE STACK.")
  | some (s, context) =>
    (.ok (), (x.trace ("POP TO STATE : " ++ roster.name s)).update fun _ => context)

/-- Takes up the state and stack that a snapshot records. -/
def restore (roster : Roster S) (x : Session S) (ids : List Nat) :
    Except Fault Unit × Session S :=
  let (result, context) := x.context.restore roster ids
  (result, { x with context })

end Session

end StateMachine.Execution
