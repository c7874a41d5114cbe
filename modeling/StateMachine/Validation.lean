import StateMachine.Reachability

/-!
# Validation

A machine that was put together guard by guard can still be wrong as a whole. Validation
checks, in this order, that

1. the machine has a context class, a start state and a map;
2. the start state exists, and is meant unambiguously: a qualified one is looked up in its
   map, an unqualified one must be the only state of that name in all maps;
3. every guard leads to ordinary states that exist, and every pop issues a transition that
   some state declares. Guards are taken map by map, the default state before the others,
   the end state before the pushed state.

The first violation is reported. States that cannot be reached are no violation; they are
listed in the result, and `Machine.validateWarning` gives a warning of each.
-/

namespace StateMachine

/-- A machine that passed validation, with what validation found out about it. -/
structure Validated where
  machine : Machine
  startMap : Map
  startState : State
  /-- The places that no run reaches, in order of declaration. -/
  unreachable : List Place
  deriving Repr

namespace Machine

/-- The first indispensable part that the machine lacks. -/
def missing? (m : Machine) : Option Missing :=
  if Text.isBlankText m.context then some .context
  else if m.start.isNone then some .start
  else if m.maps.isEmpty then some .maps
  else none

/-- The ordinary states of the given instance name in all maps. -/
def statesNamed (m : Machine) (name : String) : List (Map × State) :=
  m.states.filter fun (_, state) => state.instanceName = name

/-- The state that the reference `start` means as a start state. -/
def resolveStart (m : Machine) (start : Reference) : Except Defect (Map × State) :=
  match start.map with
  | some map =>
    match m.resolve? start map with
    | some found => .ok found
    | none => .error (.unknownStartState start m.startLine)
  | none =>
    match m.statesNamed start.state with
    | [] => .error (.unknownStartState start m.startLine)
    | [only] => .ok only
    | _ :: _ :: _ => .error (.ambiguousStartState start m.startLine)

/-- What is wrong with a reference to a state in a guard of the map `map`. -/
def targetDefect? (m : Machine) (map : Map) (line : Nat) (target : Reference) :
    Option Defect :=
  if target.state = State.defaultName then some (.defaultTarget line)
  else if (m.resolve? target map.name).isSome then none
  else some (.unknownState (target.mapOr map.name) target.state line)

/-- The names of the transitions that a pop can issue. -/
def issuableNames (m : Machine) : List String :=
  (m.transitions.map Transition.name).filter fun name => name ≠ State.defaultTransition

/-- What is wrong with the transition that a guard pops to. -/
def popDefect? (issuable : List String) (line : Nat) (transition : String) :
    Option Defect :=
  if transition ∈ issuable then none else some (.unknownPopTransition transition line)

/-- All that is wrong with a guard of the map `map`. -/
def guardDefects (m : Machine) (issuable : List String) (map : Map) (g : Guard) :
    List Defect :=
  g.references.filterMap (m.targetDefect? map g.line) ++
    g.popTransition?.toList.filterMap (popDefect? issuable g.line)

/-- All that is wrong with the guards of the machine, in the order of validation. -/
def allGuardDefects (m : Machine) : List Defect :=
  let issuable := m.issuableNames
  m.maps.flatMap fun map =>
    map.allStates.flatMap fun state =>
      state.guards.flatMap (m.guardDefects issuable map)

/-- Checks the machine as a whole. -/
def validate (m : Machine) : Except Defect Validated :=
  match m.missing?, m.startReference? with
  | some part, _ => .error (.incomplete part m.startLine)
  | none, none => .error (.incomplete .start m.startLine)
  | none, some start =>
    match m.resolveStart start with
    | .error defect => .error defect
    | .ok (map, state) =>
      match m.allGuardDefects with
      | defect :: _ => .error defect
      | [] =>
        .ok {
          machine := m
          startMap := map
          startState := state
          unreachable := m.unreachablePlaces (.ofState map state) }

end Machine

/-! ### Warnings -/

/-- Something about a state that is worth mentioning, and no violation. -/
structure Warning where
  /-- The state, by its qualified name. -/
  state : String
  message : String
  deriving DecidableEq, Repr

/-- The warning that no run reaches a state. -/
def Warning.unreachable (state : String) : Warning :=
  { state, message := "state is unreachable from the start state" }

/-- Computations that fail with a defect, and give warnings on the way. -/
abbrev Warned := ExceptT Defect (StateM (List Warning))

/-- Gives a warning, after those that were given before. -/
def Warned.warn (w : Warning) : Warned Unit :=
  modify fun given => given ++ [w]

/-- Checks the machine as a whole, and then gives a warning of each place that no run reaches. -/
def Machine.validateWarning (m : Machine) : Warned Validated := do
  let v ← ExceptT.mk (pure m.validate)
  v.unreachable.forM fun p => Warned.warn (.unreachable p.text)
  return v

end StateMachine
