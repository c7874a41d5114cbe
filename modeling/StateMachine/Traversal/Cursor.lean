import StateMachine.Machine.Basic

/-!
# Cursors

A cursor says where in a machine a traversal stands: in which map, state and transition,
and at which of the transition's guards. Entering a level forgets all deeper levels, so a
cursor never pairs a node with an ancestor it was not entered under. Asking for a level
that was not entered is a fault of the traversal, reported as `OutsideScope`.
-/

namespace StateMachine

/-- A level below the machine that a cursor may have entered. -/
inductive Scope where
  | map
  | state
  | transition
  | guard
  deriving DecidableEq, Repr

/-- The name of a level. -/
def Scope.text : Scope → String
  | .map => "map"
  | .state => "state"
  | .transition => "transition"
  | .guard => "guard"

/-- A node was visited outside of the level it belongs to. -/
structure OutsideScope where
  scope : Scope
  deriving DecidableEq, Repr

/-- How the fault is reported. -/
def OutsideScope.message (e : OutsideScope) : String :=
  s!"node visited outside of any {e.scope.text}"

/-- The place of a guard in the chain of its transition. Indices are machine words. -/
structure GuardPosition where
  index : UInt64
  /-- The length of the chain. -/
  count : Nat
  deriving DecidableEq, Repr

namespace GuardPosition

/-- Whether the guard opens its chain. -/
def isFirst (p : GuardPosition) : Bool :=
  p.index = 0

/-- Whether the guard closes its chain. -/
def isLast (p : GuardPosition) : Bool :=
  (p.index + 1).toNat = p.count

/-- Whether the chain has several guards. -/
def isChained (p : GuardPosition) : Bool :=
  p.count > 1

end GuardPosition

/-- Where a traversal of `machine` stands. -/
structure Cursor where
  machine : Machine
  map? : Option Map := none
  state? : Option State := none
  transition? : Option Transition := none
  guard? : Option GuardPosition := none
  deriving DecidableEq

namespace Cursor

/-- The cursor at the machine itself. -/
def root (m : Machine) : Cursor :=
  { machine := m }

/-- Enters a map. -/
def enterMap (c : Cursor) (map : Map) : Cursor :=
  { machine := c.machine, map? := some map }

/-- Enters a state of the map the cursor is in. -/
def enterState (c : Cursor) (state : State) : Cursor :=
  { c with state? := some state, transition? := none, guard? := none }

/-- Enters a transition of the state the cursor is in. -/
def enterTransition (c : Cursor) (t : Transition) : Cursor :=
  { c with transition? := some t, guard? := none }

/-- Enters the guard of the given index in the transition the cursor is in. -/
def enterGuard (c : Cursor) (index : UInt64) : Cursor :=
  { c with guard? := some ⟨index, (c.transition?.map (·.guards.length)).getD 0⟩ }

/-- The map the cursor is in. -/
def map (c : Cursor) : Except OutsideScope Map :=
  match c.map? with
  | some map => .ok map
  | none => .error ⟨.map⟩

/-- The state the cursor is in. -/
def state (c : Cursor) : Except OutsideScope State :=
  match c.state? with
  | some state => .ok state
  | none => .error ⟨.state⟩

/-- The transition the cursor is in. -/
def transition (c : Cursor) : Except OutsideScope Transition :=
  match c.transition? with
  | some t => .ok t
  | none => .error ⟨.transition⟩

/-- The position of the guard the cursor is at. -/
def guard (c : Cursor) : Except OutsideScope GuardPosition :=
  match c.guard? with
  | some position => .ok position
  | none => .error ⟨.guard⟩

/-- Whether the cursor is in a state. -/
def inState (c : Cursor) : Bool :=
  c.state?.isSome

/-- The guards of a chain with their indices, which start at `index`. -/
def numberGuards : UInt64 → List Guard → List (UInt64 × Guard)
  | _, [] => []
  | index, g :: rest => (index, g) :: numberGuards (index + 1) rest

/-- The guards of the transition the cursor is in, each with the cursor that enters it. -/
def guards (c : Cursor) : Except OutsideScope (List (Cursor × Guard)) :=
  c.transition.map fun t =>
    (numberGuards 0 t.guards).map fun (index, g) => (c.enterGuard index, g)

end Cursor

end StateMachine
