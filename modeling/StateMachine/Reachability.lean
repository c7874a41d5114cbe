import StateMachine.Machine.Basic

/-!
# Reachable States

A place is an ordinary state together with its map, by their names. One place leads to
another when a guard of the state, or of the default state of its map, names the other as
end state or as pushed state. A pop names no place: it leads back to a place that was
current before, so it reaches nothing new.

`unreached` takes the places in layers. It keeps the list of places not seen so far; each
layer takes the frontier's places out of it and makes their successors the next frontier,
until a frontier takes nothing out. What is left is not reachable, in its old order.
-/

namespace StateMachine

/-- An ordinary state by the names of its map and of itself. -/
structure Place where
  map : String
  /-- The instance name. -/
  state : String
  deriving DecidableEq, Repr

namespace Place

/-- The place of a state in its map. -/
def ofState (map : Map) (state : State) : Place :=
  ⟨map.name, state.instanceName⟩

/-- The place as a qualified name. -/
def text (p : Place) : String :=
  p.map ++ "::" ++ p.state

end Place

/-- The places of `unseen` that the frontier takes out. -/
def inside (frontier unseen : List Place) : List Place :=
  unseen.filter fun p => p ∈ frontier

/-- The places of `unseen` that the frontier leaves. -/
def outside (frontier unseen : List Place) : List Place :=
  unseen.filter fun p => p ∉ frontier

/-- The places of `unseen` that no path from `frontier` along `successors` reaches, in
order. -/
def unreached (successors : Place → List Place) (unseen frontier : List Place) :
    List Place :=
  if (outside frontier unseen).length < unseen.length then
    unreached successors (outside frontier unseen)
      ((inside frontier unseen).flatMap successors)
  else unseen
termination_by unseen.length

/-- The references of a guard: its named end state, then its pushed state. -/
def Guard.references (g : Guard) : List Reference :=
  g.endReference?.toList ++ g.pushed?.toList

namespace Machine

/-- The places of a machine, in order of declaration. -/
def places (m : Machine) : List Place :=
  m.states.map fun (map, state) => .ofState map state

/-- The places that a guard in the map `map` names. -/
def guardPlaces (m : Machine) (map : Map) (g : Guard) : List Place :=
  g.references.filterMap fun r =>
    (m.resolve? r map.name).map fun (map, state) => .ofState map state

/-- The guards that may be taken in a state of the map: its own, then those of the default
state. -/
def guardsAt (map : Map) (state : State) : List Guard :=
  state.guards ++ map.defaultState.toList.flatMap State.guards

/-- The places that a place leads to. -/
def successors (m : Machine) (p : Place) : List Place :=
  match m.resolve? (.qualified p.map p.state) p.map with
  | some (map, state) => (guardsAt map state).flatMap (m.guardPlaces map)
  | none => []

/-- The places that no run from `start` reaches, in order of declaration. -/
def unreachablePlaces (m : Machine) (start : Place) : List Place :=
  unreached m.successors m.places [start]

end Machine

end StateMachine
