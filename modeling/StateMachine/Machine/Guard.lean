import StateMachine.Machine.Action
import StateMachine.Machine.Reference

/-!
# Guards

A transition is a chain of guards. Each has a condition, which is blank in an
unconditional guard; the actions to run when the guard is taken; and a transfer, which
says where the machine goes.

## Transfers

* `set`: to the end state.
* `push`: the end state goes on the state stack, and the pushed state becomes current.
* `pop`: the top of the stack becomes current; if a transition is named, it is issued
  there with the given arguments.
-/

namespace StateMachine

/-- Where a guard takes the machine. -/
inductive Transfer where
  | set (target : EndState)
  | push (target : EndState) (pushed : Reference)
  | pop (transition : Option String) (arguments : List String)
  deriving DecidableEq, Repr

/-- The three kinds of transfer. -/
inductive TransferKind where
  | set
  | push
  | pop
  deriving DecidableEq, Repr

/-- The kind of a transfer. -/
def Transfer.kind : Transfer → TransferKind
  | .set _ => .set
  | .push _ _ => .push
  | .pop _ _ => .pop

/-- Whether a transfer of this kind to this end state leaves the current state without
exit and entry: a set to `nil` does, every push does, and no pop does. -/
def TransferKind.isLoopback : TransferKind → EndState → Bool
  | .set, target => target.isNil
  | .push, _ => true
  | .pop, _ => false

/-- One alternative of a transition. -/
structure Guard where
  /-- The condition without blank ends; empty if the guard is unconditional. -/
  condition : String
  transfer : Transfer
  actions : List Action := []
  line : Nat := 0
  deriving DecidableEq, Repr

namespace Guard

/-- A guard from its condition as written. -/
def make (condition : String) (transfer : Transfer) (line : Nat) (actions : List Action) :
    Guard :=
  { condition := Text.trim condition, transfer, actions, line }

/-- Whether the guard is taken whenever it is reached. -/
def isUnconditional (g : Guard) : Bool :=
  g.condition = ""

/-- The end state of a set or a push. -/
def endState? (g : Guard) : Option EndState :=
  match g.transfer with
  | .set target => some target
  | .push target _ => some target
  | .pop _ _ => none

/-- The named end state of a set or a push. -/
def endReference? (g : Guard) : Option Reference :=
  g.endState?.bind EndState.reference?

/-- The state that a push makes current. -/
def pushed? (g : Guard) : Option Reference :=
  match g.transfer with
  | .push _ pushed => some pushed
  | _ => none

/-- The transition that a pop issues. -/
def popTransition? (g : Guard) : Option String :=
  match g.transfer with
  | .pop transition _ => transition
  | _ => none

/-- The arguments of a pop that are not blank, in order. -/
def popArguments (g : Guard) : List String :=
  match g.transfer with
  | .pop _ arguments => arguments.filter fun argument => !Text.isBlankText argument
  | _ => []

/-- Whether taking the guard neither leaves nor enters the state it names: a set to `nil`
and every push. -/
def isLoopback (g : Guard) : Bool :=
  g.transfer.kind.isLoopback (g.endState?.getD .nil)

/-- The inside of the brackets of a pop: the transition and its arguments, or nothing when
no transition is named. -/
def popText (transition : Option String) (arguments : List String) : String :=
  match transition with
  | some name => ", ".intercalate (name :: arguments)
  | none => ""

/-- The transfer as written, given the arguments to show for a pop. -/
def transferText (transfer : Transfer) (popArguments : List String) : String :=
  match transfer with
  | .set target => target.text
  | .push .nil pushed => "push(" ++ pushed.text ++ ")"
  | .push (.named target) pushed => target.text ++ "/push(" ++ pushed.text ++ ")"
  | .pop transition _ => "pop(" ++ popText transition popArguments ++ ")"

/-- The condition in square brackets and a space, or nothing for an unconditional guard. -/
def conditionText (g : Guard) : String :=
  if g.isUnconditional then "" else "[" ++ g.condition ++ "] "

/-- The guard as written, without its actions. -/
def text (g : Guard) : String :=
  g.conditionText ++ transferText g.transfer g.popArguments

/-- The guard as written, without its actions and without the arguments of a pop. -/
def shortText (g : Guard) : String :=
  g.conditionText ++ transferText g.transfer []

end Guard

end StateMachine
