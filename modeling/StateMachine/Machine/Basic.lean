import StateMachine.Machine.Map

/-!
# Machines

A machine is a set of maps with distinct names, a start state, the name of the context
class that owns it, and the declarations an output may repeat: a package, imports,
includes, raw source text.
-/

namespace StateMachine

/-- A complete description of a state machine. -/
structure Machine where
  /-- The class that owns the machine and carries its actions out. -/
  context : String
  /-- The start state and the line that sets it. -/
  start : Option (Reference × Nat) := none
  package : Option String := none
  /-- Text to repeat at the head of the output. -/
  source : Option String := none
  /-- The name of the file the description was read from. -/
  sourceFile : Option String := none
  header : Option String := none
  imports : List String := []
  includes : List String := []
  declarations : List String := []
  maps : List Map := []
  deriving DecidableEq, Repr

namespace Machine

/-- The start state as written. -/
def startReference? (m : Machine) : Option Reference :=
  m.start.map Prod.fst

/-- The line that sets the start state; 0 if none does. -/
def startLine (m : Machine) : Nat :=
  (m.start.map Prod.snd).getD 0

/-- The machine with the start state named by `name`. -/
def setStart (m : Machine) (name : String) (line : Nat) : Machine :=
  { m with start := some (Reference.parse name, line) }

/-- The map of the given name. -/
def map? (m : Machine) (name : String) : Option Map :=
  m.maps.find? fun map => map.name = name

/-- The machine with `map` after its maps, unless it has one of that name. -/
def addMap (m : Machine) (map : Map) : Except Defect Machine :=
  if (m.map? map.name).isSome then
    .error (.duplicateMap map.name map.line)
  else
    .ok { m with maps := m.maps ++ [map] }

/-- The ordinary state that `r` means in the map `current`, with its map. -/
def resolve? (m : Machine) (r : Reference) (current : String) : Option (Map × State) :=
  (m.map? (r.mapOr current)).bind fun map =>
    (map.state? r.state).map fun state => (map, state)

/-- One transition of each signature that a state of any map declares; of equal ones that
of the first map. -/
def transitions (m : Machine) : List Transition :=
  mergeTransitions (m.maps.flatMap Map.transitions)

/-- The ordinary states of all maps with their maps, in order of declaration. -/
def states (m : Machine) : List (Map × State) :=
  m.maps.flatMap fun map => map.states.map fun state => (map, state)

end Machine

end StateMachine
