import StateMachine.Machine.Transition

/-!
# States

A state has entry and exit actions and transitions of distinct names. The state named
`Default` is special: it is not a state a machine can be in, but holds the transitions
that the other states of its map fall back on. In references and in the output, states go
by their instance names, which is the class name but for `Default`.
-/

namespace StateMachine

/-- A state, or the default state of a map. -/
structure State where
  /-- The name in the description. -/
  className : String
  line : Nat := 0
  entryActions : List Action := []
  exitActions : List Action := []
  transitions : List Transition := []
  deriving DecidableEq, Repr

namespace State

/-- The name that makes a state the default state of its map. -/
def defaultName : String := "Default"

/-- The name of the transition that is issued when no other is declared. -/
def defaultTransition : String := "Default"

/-- Whether the state is the default state of its map. -/
def isDefault (s : State) : Bool :=
  s.className = defaultName

/-- The name that references use. -/
def instanceName (s : State) : String :=
  if s.isDefault then s.className ++ "State" else s.className

/-- The transition of the given name. -/
def transition? (s : State) (name : String) : Option Transition :=
  s.transitions.find? fun t => t.name = name

/-- Whether the state declares a transition of the given name. -/
def defines (s : State) (name : String) : Bool :=
  (s.transition? name).isSome

/-- The guards of all transitions, in order. -/
def guards (s : State) : List Guard :=
  s.transitions.flatMap Transition.guards

/-- The state with `action` after its entry actions. -/
def addEntryAction (s : State) (action : Action) : State :=
  { s with entryActions := s.entryActions ++ [action] }

/-- The state with `action` after its exit actions. -/
def addExitAction (s : State) (action : Action) : State :=
  { s with exitActions := s.exitActions ++ [action] }

/-- The state with `t` after its transitions, unless it has one of that name. -/
def addTransition (s : State) (t : Transition) : Except Defect State :=
  if s.defines t.name then
    .error (.duplicateTransition s.className t.name t.line)
  else
    .ok { s with transitions := s.transitions ++ [t] }

/-- Replaces the first transition of the given name. -/
def replaceTransition (name : String) (new : Transition) : List Transition → List Transition
  | [] => []
  | t :: rest => if t.name = name then new :: rest else t :: replaceTransition name new rest

/-- The state with `guard` at the end of its transition `name`; `none` if there is no such
transition. -/
def extendTransition (s : State) (name : String) (guard : Guard) :
    Option (Except Defect State) :=
  (s.transition? name).map fun t =>
    (t.addGuard guard).map fun extended =>
      { s with transitions := replaceTransition name extended s.transitions }

end State

end StateMachine
