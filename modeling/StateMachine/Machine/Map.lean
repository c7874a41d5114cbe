import StateMachine.Machine.Signature
import StateMachine.Machine.State

/-!
# Maps

A map is a named group of states with distinct instance names, and at most one default
state, kept apart from them.

The transitions of a map are those of all its states, one for each signature. Where the
default state does not declare a transition that an ordinary state declares, the map still
has a handler for it that falls back further; those transitions are the
`undefinedDefaultTransitions`.
-/

namespace StateMachine

/-- A group of states. -/
structure Map where
  name : String
  line : Nat := 0
  /-- The ordinary states, in order of declaration. -/
  states : List State := []
  defaultState : Option State := none
  deriving DecidableEq, Repr

namespace Map

/-- The ordinary state of the given instance name. -/
def state? (m : Map) (name : String) : Option State :=
  m.states.find? fun s => s.instanceName = name

/-- Whether there is an ordinary state of the given instance name. -/
def isKnownState (m : Map) (name : String) : Bool :=
  (m.state? name).isSome

/-- The default state, if any, then the ordinary states. -/
def allStates (m : Map) : List State :=
  m.defaultState.toList ++ m.states

/-- The map with `s` as its default state or after its ordinary states, unless it has one
already. -/
def addState (m : Map) (s : State) : Except Defect Map :=
  if s.isDefault then
    if m.defaultState.isSome then
      .error (.duplicateDefaultState m.name s.line)
    else
      .ok { m with defaultState := some s }
  else if m.isKnownState s.instanceName then
    .error (.duplicateState m.name s.instanceName s.line)
  else
    .ok { m with states := m.states ++ [s] }

/-- One transition of each signature that a state of the map declares. The default state's
come first, so of equal ones its own is kept. -/
def transitions (m : Map) : List Transition :=
  mergeTransitions (m.allStates.flatMap State.transitions)

/-- Whether the default state declares the transition `name`. -/
def defaultDefines (m : Map) (name : String) : Bool :=
  m.defaultState.any fun s => s.defines name

/-- One transition of each name that an ordinary state declares and the default state does
not. -/
def undefinedDefaultTransitions (m : Map) : List Transition :=
  firstOfEachName (m.transitions.filter fun t => !m.defaultDefines t.name)

/-- Whether some state of the map declares the transition `name`, so that the map has a
default handler for it, declared or derived. -/
def hasDefaultHandler (m : Map) (name : String) : Bool :=
  m.allStates.any fun s => s.defines name

end Map

end StateMachine
