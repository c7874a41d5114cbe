import StateMachine.Program.Handler

/-!
# Methods

Each transition but `Default` is a public method of the context. It calls the handler that
belongs to the current state. As there is one method for a name, transitions of one name
have to take parameters of the same types.
-/

namespace StateMachine.Program

/-- What a method or dispatcher does in one state. -/
structure Arm where
  variant : Variant
  forward : Forward

/-- The method that issues a transition. -/
structure Method where
  transition : String
  ident : Rust.Ident
  parameters : List Binding
  arms : List Arm

/-- The names of the methods that every context has. -/
def reservedNames : List String :=
  ["new", "enter_start_state", "state", "fsm", "fsm_mut", "snapshot", "restore", "lock",
   "into_inner", "on_entry", "on_exit", "default_transition", "unhandled_transition"]

/-! ### The transitions with a method -/

/-- The first `Default` transition of the state that takes parameters. -/
def defaultWithParameters? (state : State) : Option Transition :=
  state.transitions.find? fun t =>
    t.name = State.defaultTransition && !t.parameters.isEmpty

/-- The transitions that are declared with two signatures next to each other. -/
def overloads : List Transition → List Transition
  | t :: u :: rest =>
    if t.name = u.name then u :: overloads (u :: rest) else overloads (u :: rest)
  | _ => []

/-- The signature error of a transition. -/
def signatureError (problem : SignatureProblem) (t : Transition) : GenerationError :=
  .signature t.name problem t.line

/-- The transitions with a method, by name. -/
def publicTransitions (m : Machine) : Emission (List Transition) :=
  let named := m.transitions.filter fun t => t.name ≠ State.defaultTransition
  match (m.maps.flatMap Map.allStates).findSome? defaultWithParameters? with
  | some t => .error (signatureError .defaultParameters t)
  | none =>
    match overloads named with
    | t :: _ => .error (signatureError .overloaded t)
    | [] =>
      match named.find? fun t => reservedNames.contains t.name with
      | some t => .error (signatureError .reserved t)
      | none => .ok named

/-! ### Methods -/

/-- The class of the state whose handler a transition goes to, if there is one. -/
def handlingClass? (map : Map) (state : State) (transition : String) : Option String :=
  if state.defines transition then some state.className
  else if map.hasDefaultHandler transition then some State.defaultName
  else none

/-- The arm of a state in the method of a transition. -/
def Arm.ofState (t : Transition) (arguments : List Rust.Ident) (map : Map) (state : State) :
    Emission Arm := do
  let variant ← Variant.ofState map state state.line
  match handlingClass? map state t.name with
  | some stateClass =>
    let name ← HandlerName.make map.name stateClass t.name t.line
    return { variant, forward := .handler name arguments }
  | none => return { variant, forward := .defaultTransition }

/-- The method of a transition. -/
def Method.ofTransition (m : Machine) (t : Transition) : Emission Method := do
  let ident ← Emission.name "transition name" t.name t.line
  let parameters ← Binding.ofTransition t
  let arms ← m.states.mapM fun (map, state) =>
    Arm.ofState t (parameters.map Binding.name) map state
  return { transition := t.name, ident, parameters, arms }

/-- All methods. -/
def Method.ofMachine (m : Machine) : Emission (List Method) := do
  (← publicTransitions m).mapM (Method.ofTransition m)

end StateMachine.Program
