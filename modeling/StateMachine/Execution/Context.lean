/-!
# Contexts of Running Machines

A running machine keeps its current state, which is missing while the actions of a
transition run; the state before that; a stack of states to return to; and the name of the
transition in flight. `Context S` holds these for states of type `S`.

The states of a machine have names and numbers. A `Roster S` says how they are numbered,
which is what a snapshot records: the numbers of the stacked states from the bottom up,
then that of the current state.

## Conventions

The stack is a list from the bottom up, so a push appends.
-/

namespace StateMachine.Execution

/-- The names and numbers of the states of a machine. -/
structure Roster (S : Type) where
  /-- The name of a state, `Map.State`. -/
  name : S → String
  id : S → Nat
  /-- The state of a number, if a state has it. -/
  ofId? : Nat → Option S

/-- Why a running machine refuses a request. -/
inductive Fault where
  /-- There is no current state: the actions of `transition` are running. -/
  | stateUndefined (transition : String)
  /-- Neither the state nor the default state of its map handles the transition. -/
  | undefined (state transition : String)
  /-- There is no state to return to. -/
  | emptyStack
  /-- No state has this number. -/
  | unknownId (id : Nat)
  deriving DecidableEq, Repr

/-- How a refusal is reported. -/
def Fault.message : Fault → String
  | .stateUndefined transition =>
    s!"state undefined while executing transition `{transition}`"
  | .undefined state transition =>
    s!"no transition `{transition}` defined in state `{state}`"
  | .emptyStack => "popping an empty state stack"
  | .unknownId id => s!"unknown state id {id}"

/-- The bookkeeping of a running machine. -/
structure Context (S : Type) where
  /-- The current state; none while the actions of a transition run. -/
  state? : Option S
  /-- What the current state was when it was last cleared. -/
  previous? : Option S := none
  /-- The states to return to, the latest last. -/
  stack : List S := []
  /-- The transition in flight; empty between transitions. -/
  transition : String := ""
  /-- Whether to trace. -/
  debug : Bool := false
  deriving DecidableEq, Repr

namespace Context

variable {S : Type}

/-- A context in the state `start`. -/
def start (s : S) : Context S :=
  { state? := some s }

/-- The current state; refused while there is none. -/
def state (c : Context S) : Except Fault S :=
  match c.state? with
  | some s => .ok s
  | none => .error (.stateUndefined c.transition)

/-- Makes `s` current. -/
def setState (c : Context S) (s : S) : Context S :=
  { c with state? := some s }

/-- Leaves the current state. -/
def clearState (c : Context S) : Context S :=
  { c with previous? := c.state?, state? := none }

/-- Stacks the current state, if there is one, and makes `s` current. -/
def pushState (c : Context S) (s : S) : Context S :=
  { c with stack := c.stack ++ c.state?.toList, state? := some s }

/-- The top of the stack and the context that has returned to it. -/
def popState? (c : Context S) : Option (S × Context S) :=
  c.stack.getLast?.map fun s => (s, { c with stack := c.stack.dropLast, state? := some s })

/-- Forgets the stack. -/
def emptyStack (c : Context S) : Context S :=
  { c with stack := [] }

/-- Names the transition in flight. -/
def setTransition (c : Context S) (name : String) : Context S :=
  { c with transition := name }

/-- Turns tracing on or off. -/
def setDebug (c : Context S) (debug : Bool) : Context S :=
  { c with debug }

/-- Whether the actions of a transition are running. -/
def inTransition (c : Context S) : Bool :=
  c.state?.isNone

/-- The number of stacked states. -/
def depth (c : Context S) : Nat :=
  c.stack.length

/-- The numbers of the stacked states, then that of the current state. -/
def snapshot (roster : Roster S) (c : Context S) : Except Fault (List Nat) :=
  c.state.map fun s => (c.stack ++ [s]).map roster.id

/-- The state of a number; refused if no state has it. -/
def lookup (roster : Roster S) (id : Nat) : Except Fault S :=
  match roster.ofId? id with
  | some s => .ok s
  | none => .error (.unknownId id)

/-- The states of numbers; refused at the first number that no state has. -/
def lookupAll (roster : Roster S) : List Nat → Except Fault (List S)
  | [] => .ok []
  | id :: rest => do
    let s ← lookup roster id
    let others ← lookupAll roster rest
    return s :: others

/-- Takes up the state and stack that a snapshot records. The stack is replaced as soon as
all its states are known; a current state that is not known is found out only then. -/
def restore (roster : Roster S) (c : Context S) (ids : List Nat) :
    Except Fault Unit × Context S :=
  match ids.getLast? with
  | none => (.error .emptyStack, c)
  | some last =>
    match lookupAll roster ids.dropLast with
    | .error fault => (.error fault, c)
    | .ok stack =>
      match lookup roster last with
      | .error fault => (.error fault, { c with stack })
      | .ok s =>
        (.ok (), { c with stack, state? := some s, previous? := none, transition := "" })

end Context

end StateMachine.Execution
