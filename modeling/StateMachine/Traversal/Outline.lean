import StateMachine.Traversal.Cursor

/-!
# Outlines

The outline of a machine has one note for each node of its tree. A node comes before the
nodes under it, which follow in this order:

* the maps of a machine;
* the default state of a map, then its ordinary states;
* the entry actions, exit actions and transitions of a state;
* the parameters and guards of a transition;
* the actions of a guard.

A note has the kind of the node, a text, and a remark when the node lies in a state.
-/

namespace StateMachine.Outline

/-- The note on a node. -/
def note (c : Cursor) (kind text : String) : String :=
  kind ++ " " ++ text ++ (if c.inState then " (in state)" else "")

/-- The note on an action. -/
def ofAction (c : Cursor) (a : Action) : List String :=
  [note c "action" a.text]

/-- The note on a parameter. -/
def ofParameter (c : Cursor) (p : Parameter) : List String :=
  [note c "parameter" p.text]

/-- The notes on a guard, which is named by its transition and counted from 1. -/
def ofGuard (c : Cursor) (g : Guard) : Except OutsideScope (List String) := do
  let position ← c.guard
  let t ← c.transition
  let text := s!"{t.name} {position.index.toNat + 1}/{position.count} {g.text}"
  return note c "guard" text :: g.actions.flatMap (ofAction c)

/-- Puts the notes on the items of a list one after the other. -/
def concat {α : Type} (notes : α → Except OutsideScope (List String)) :
    List α → Except OutsideScope (List String)
  | [] => .ok []
  | a :: rest => do
    let first ← notes a
    let others ← concat notes rest
    return first ++ others

/-- The notes on a transition, which is named by its state. -/
def ofTransition (c : Cursor) (t : Transition) : Except OutsideScope (List String) := do
  let state ← c.state
  let guards ← c.guards
  let below ← concat (fun (c, g) => ofGuard c g) guards
  return note c "transition" (state.className ++ "." ++ t.name) ::
    (t.parameters.flatMap (ofParameter c) ++ below)

/-- The notes on a state, which is named by its map. -/
def ofState (c : Cursor) (s : State) : Except OutsideScope (List String) := do
  let map ← c.map
  let below ← concat (fun t => ofTransition (c.enterTransition t) t) s.transitions
  return note c "state" (map.name ++ "." ++ s.instanceName) ::
    (s.entryActions.flatMap (ofAction c) ++ s.exitActions.flatMap (ofAction c) ++ below)

/-- The notes on a map. -/
def ofMap (c : Cursor) (m : Map) : Except OutsideScope (List String) := do
  let below ← concat (fun s => ofState (c.enterState s) s) m.allStates
  return note c "map" m.name :: below

/-- The notes on a machine. -/
def ofMachine (m : Machine) : Except OutsideScope (List String) := do
  let c := Cursor.root m
  let below ← concat (fun map => ofMap (c.enterMap map) map) m.maps
  return note c "fsm" m.context :: below

end StateMachine.Outline
