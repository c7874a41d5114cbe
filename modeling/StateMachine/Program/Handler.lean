import StateMachine.Program.Statement

/-!
# Handlers

Each transition of each state has a handler. It takes the first branch whose condition
holds. If none does, it forwards the transition to the handler of the map's default state;
in the default state itself, to the `Default` transition; and a `Default` transition that
is not taken there either is unhandled.

So that every state can forward, a map has a handler for each transition that some state
declares and its default state does not; this one only forwards.
-/

namespace StateMachine.Program

/-- The name of a handler: the transition in a state of a map. -/
structure HandlerName where
  map : String
  stateClass : String
  transition : String
  ident : Rust.Ident
  deriving DecidableEq, Repr

/-- The name of the handler of a transition in a state. -/
def HandlerName.make (map stateClass transition : String) (line : Nat) :
    Emission HandlerName := do
  let ident ← (Rust.Ident.ofHandler map stateClass transition line).mapError .malformed
  return { map, stateClass, transition, ident }

/-- A parameter with its type. -/
structure Binding where
  name : Rust.Ident
  type : Rust.Fragment

/-- The binding of a parameter. -/
def Binding.ofParameter (p : Parameter) : Emission Binding := do
  let name ← Emission.name "parameter name" p.name p.line
  let type ← (Rust.Fragment.type p.type p.line).mapError .malformed
  return { name, type }

/-- The bindings of the parameters of a transition. -/
def Binding.ofTransition (t : Transition) : Emission (List Binding) :=
  t.parameters.mapM Binding.ofParameter

/-- Where a transition is forwarded to. -/
inductive Forward where
  | handler (name : HandlerName) (arguments : List Rust.Ident)
  /-- The `Default` transition of the state. -/
  | defaultTransition
  | unhandled

/-- What a handler does. -/
inductive HandlerBody where
  /-- It takes a branch, or else forwards; without a forward some branch is always taken. -/
  | branches (bs : List Branch) (otherwise : Option Forward)
  | forward (f : Forward)

/-- The handler of a transition in a state. -/
structure Handler where
  name : HandlerName
  parameters : List Binding
  body : HandlerBody

/-- Where a transition of the default state goes that is not taken there. -/
def Forward.ofDefault (transition : String) : Forward :=
  if transition = State.defaultTransition then .unhandled else .defaultTransition

/-- Where a transition of a state goes that is not taken there. -/
def Forward.ofState (map : Map) (state : State) (t : Transition)
    (arguments : List Rust.Ident) : Emission Forward :=
  if state.isDefault then return .ofDefault t.name
  else do
    return .handler (← HandlerName.make map.name State.defaultName t.name t.line) arguments

/-- The handler of a transition that the state declares. -/
def Handler.ofTransition (m : Machine) (o : OutputOptions) (map : Map) (state : State)
    (t : Transition) : Emission Handler := do
  let name ← HandlerName.make map.name state.className t.name t.line
  let parameters ← Binding.ofTransition t
  let branches ← t.guards.mapM (Branch.ofGuard m o map state t)
  let otherwise ←
    if t.hasUnconditionalGuard then pure none
    else some <$> Forward.ofState map state t (parameters.map Binding.name)
  return { name, parameters, body := .branches branches otherwise }

/-- The handler of a transition that the default state of the map does not declare. -/
def Handler.forwarding (map : Map) (t : Transition) : Emission Handler := do
  let name ← HandlerName.make map.name State.defaultName t.name t.line
  let parameters ← Binding.ofTransition t
  return { name, parameters, body := .forward (.ofDefault t.name) }

/-- The handlers of a state. -/
def Handler.ofState (m : Machine) (o : OutputOptions) (map : Map) (state : State) :
    Emission (List Handler) :=
  state.transitions.mapM (Handler.ofTransition m o map state)

/-- The handlers of a map: those of the default state, those that only forward, and those of
the other states. -/
def Handler.ofMap (m : Machine) (o : OutputOptions) (map : Map) :
    Emission (List Handler) := do
  let declared ← map.defaultState.toList.mapM (Handler.ofState m o map)
  let derived ← map.undefinedDefaultTransitions.mapM (Handler.forwarding map)
  let ordinary ← map.states.mapM (Handler.ofState m o map)
  return declared.flatten ++ derived ++ ordinary.flatten

end StateMachine.Program
