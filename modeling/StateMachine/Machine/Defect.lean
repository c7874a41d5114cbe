import StateMachine.Machine.Reference

/-!
# Defects of a Machine

Whatever can be wrong with a machine, while it is put together or as a whole, is one
constructor of `Defect`, with the line to blame. `Defect.message` is the only place where
their wording stands.
-/

namespace StateMachine

/-- What a machine cannot do without. -/
inductive Missing where
  | context
  | start
  | maps
  deriving DecidableEq, Repr

/-- How a missing part is reported. -/
def Missing.reason : Missing → String
  | .context => "no context class"
  | .start => "no start state"
  | .maps => "no maps"

/-- One thing wrong with a machine. -/
inductive Defect where
  /-- The machine lacks an indispensable part. -/
  | incomplete (missing : Missing) (line : Nat)
  /-- A second map of one name. -/
  | duplicateMap (map : String) (line : Nat)
  /-- A second ordinary state of one name in a map. -/
  | duplicateState (map state : String) (line : Nat)
  /-- A second default state in a map. -/
  | duplicateDefaultState (map : String) (line : Nat)
  /-- A second transition of one name in a state. -/
  | duplicateTransition (state transition : String) (line : Nat)
  /-- A guard that can never be reached. -/
  | guardAfterUnconditional (transition : String) (line : Nat)
  /-- The start state is not there. -/
  | unknownStartState (start : Reference) (line : Nat)
  /-- The start state is named without its map and several maps have it. -/
  | ambiguousStartState (start : Reference) (line : Nat)
  /-- A guard leads to a state that is not there. -/
  | unknownState (map state : String) (line : Nat)
  /-- A guard leads to a default state. -/
  | defaultTarget (line : Nat)
  /-- A pop issues a transition that no state declares. -/
  | unknownPopTransition (transition : String) (line : Nat)
  deriving DecidableEq, Repr

namespace Defect

/-- The line to blame. -/
def line : Defect → Nat
  | incomplete _ line | duplicateMap _ line | duplicateState _ _ line
  | duplicateDefaultState _ line | duplicateTransition _ _ line
  | guardAfterUnconditional _ line | unknownStartState _ line
  | ambiguousStartState _ line | unknownState _ _ line | defaultTarget line
  | unknownPopTransition _ line => line

/-- What is wrong, without the line. -/
def reason : Defect → String
  | incomplete missing _ => s!"incomplete state machine: {missing.reason}"
  | duplicateMap map _ => s!"duplicate map `{map}`"
  | duplicateState map state _ => s!"duplicate state `{state}` in map `{map}`"
  | duplicateDefaultState map _ => s!"map `{map}` already has a Default state"
  | duplicateTransition state transition _ =>
    s!"duplicate transition `{transition}` in state `{state}`"
  | guardAfterUnconditional transition _ =>
    s!"guard follows the unconditional guard of transition `{transition}`; " ++
      "the unconditional guard must be last"
  | unknownStartState start _ => s!"start state `{start.text}` does not exist"
  | ambiguousStartState start _ =>
    s!"start state `{start.text}` exists in several maps; qualify it as `Map::State`"
  | unknownState map state _ => s!"state `{state}` does not exist in map `{map}`"
  | defaultTarget _ => "the Default state cannot be a transition target"
  | unknownPopTransition transition _ =>
    s!"pop transition `{transition}` is not defined by any state"

/-- The defect as reported: its line, then what is wrong. -/
def message (d : Defect) : String :=
  s!"line {d.line}: {d.reason}"

end Defect

end StateMachine
