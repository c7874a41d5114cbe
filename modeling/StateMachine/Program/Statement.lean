import StateMachine.Options
import StateMachine.Program.Error
import StateMachine.Reachability

/-!
# Statements of a Program

The body of a guard is a list of statements. They work on the context, which holds the
current state and the state stack, on the local name `state` for the state that was current
when the transition began, and on the owner, which carries actions out.

## The order of a body

1. The old state is left.
2. If the guard has actions, the context is cleared and the actions run. Unless that is
   switched off, a panic in an action is caught and kept.
3. The state is set, and the new state is entered, pushed or popped.
4. A panic that was kept goes on.
5. After a pop, its transition is issued.

So the state changes even if an action panics. `body` puts the statements together, and
`Branch.ofGuard` reads them from a guard.
-/

namespace StateMachine.Program

/-- A state in the program: a variant of the enumeration of states. -/
structure Variant where
  place : Place
  ident : Rust.Ident
  deriving DecidableEq, Repr

/-- The variant of a state. -/
def Variant.ofState (map : Map) (state : State) (line : Nat) : Emission Variant := do
  let ident ← (Rust.Ident.ofState map.name state.instanceName line).mapError .malformed
  return { place := .ofState map state, ident }

/-- The variant that a reference in a guard of the map `map` means. -/
def Variant.ofReference (m : Machine) (map : Map) (line : Nat) (target : Reference) :
    Emission Variant :=
  match m.resolve? target map.name with
  | some (map, state) => Variant.ofState map state line
  | none => .error (.unresolved target)

/-! ### Commands -/

/-- What an action does. -/
inductive Command where
  /-- The context empties its state stack. -/
  | emptyStack
  /-- A method of the owner is called. -/
  | call (method : Rust.Ident) (arguments : List Rust.Fragment)
  /-- A property of the owner is set. -/
  | assign (property : Rust.Ident) (value : Rust.Fragment)

/-- The command of an action. Of the arguments of a property only the first counts. -/
def Command.ofAction (a : Action) : Emission Command := do
  match a.receiver with
  | .context => return .emptyStack
  | .owner =>
    let name ← Emission.name "action name" a.name a.line
    let arguments ← Emission.expressions "action argument" a.arguments a.line
    if a.isProperty then
      match arguments with
      | value :: _ => return .assign name value
      | [] => throw (.missingValue a.name a.line)
    else return .call name arguments

/-- The commands of actions. -/
def Command.ofActions (actions : List Action) : Emission (List Command) :=
  actions.mapM Command.ofAction

/-! ### Statements -/

/-- The state at the begin of the transition, or a given state. -/
inductive Target where
  | current
  | variant (v : Variant)
  deriving DecidableEq, Repr

/-- A transition that is issued after a pop. -/
structure Issue where
  transition : String
  method : Rust.Ident
  arguments : List Rust.Fragment

/-- A statement of the body of a guard. -/
inductive Statement where
  /-- Traces the begin of a transition with its signature. -/
  | traceEnter (signature : String)
  /-- Traces the end of a transition. -/
  | traceExit (transition : String)
  /-- Runs the exit actions of the state. -/
  | leave
  /-- Runs the exit actions of the state, unless it is the given one. -/
  | leaveUnless (v : Variant)
  /-- Leaves the context without a current state. -/
  | clear
  | command (c : Command)
  /-- Runs commands and keeps a panic. -/
  | catching (cs : List Command)
  | setState (target : Target)
  /-- Runs the entry actions of the given state. -/
  | enter (v : Variant)
  /-- Runs the entry actions of the given state, unless it is the state itself. -/
  | enterUnless (v : Variant)
  | push (v : Variant)
  /-- Pops the state stack, and ends the transition if it is empty. -/
  | pop
  /-- Pops the state stack, and keeps the result. -/
  | popLater
  /-- Lets a panic that was kept go on. -/
  | resume
  /-- Ends the transition if the kept result of a pop is an error. -/
  | checkPop
  | issue (i : Issue)

/-! ### Bodies -/

/-- Where a guard takes the machine, in variants. -/
inductive Move where
  | stay
  | go (target : Variant)
  /-- The target, or the current state, is pushed below the new state. -/
  | push (target : Option Variant) (pushed : Variant)
  | pop (issue : Option Issue)

/-- The statements that leave the old state. -/
def leaving (inDefault : Bool) : Move → List Statement
  | .stay => []
  | .go target => if inDefault then [.leaveUnless target] else [.leave]
  | .push _ _ => []
  | .pop _ => [.leave]

/-- The statements that run the actions. -/
def running (catching : Bool) (commands : List Command) : List Statement :=
  if commands.isEmpty then []
  else if catching then [.clear, .catching commands]
  else .clear :: commands.map .command

/-- The statements that set the state; if there were actions, it was cleared. -/
def settling (hasActions : Bool) : Move → List Statement
  | .stay => if hasActions then [.setState .current] else []
  | .go target => [.setState (.variant target)]
  | .push (some target) _ => [.setState (.variant target)]
  | .push none _ => if hasActions then [.setState .current] else []
  | .pop _ => if hasActions then [.setState .current] else []

/-- The statements that enter the new state, push or pop. -/
def arriving (inDefault catching : Bool) : Move → List Statement
  | .stay => []
  | .go target => if inDefault then [.enterUnless target] else [.enter target]
  | .push _ pushed => [.push pushed, .enter pushed]
  | .pop _ => if catching then [.popLater] else [.pop]

/-- The statements that let a panic go on, and look at the result of a pop. -/
def resuming : Move → List Statement
  | .pop _ => [.resume, .checkPop]
  | _ => [.resume]

/-- The statements that issue a transition after a pop. -/
def issuing : Move → List Statement
  | .pop (some i) => [.issue i]
  | _ => []

/-- The signature of a transition as it is traced. -/
def signatureText (t : Transition) : String :=
  t.name ++ "(" ++ t.parametersText ++ ")"

/-- The body of a guard of the transition `t`. In the default state of a map the current
state may be the target; it is then neither left nor entered. -/
def body (o : OutputOptions) (inDefault : Bool) (t : Transition) (move : Move)
    (commands : List Command) : List Statement :=
  let hasActions := !commands.isEmpty
  let catching := hasActions && !o.noCatch
  (if o.debug then [.traceEnter (signatureText t)] else []) ++ leaving inDefault move ++
    running catching commands ++ settling hasActions move ++
    arriving inDefault catching move ++ (if catching then resuming move else []) ++
    (if o.debug then [.traceExit t.name] else []) ++ issuing move

/-! ### Branches -/

/-- One branch of a handler. -/
structure Branch where
  /-- The condition, if there is one. -/
  condition : Option Rust.Fragment
  statements : List Statement

/-- The transition that a guard issues after a pop. -/
def Issue.ofGuard (g : Guard) (transition : String) : Emission Issue := do
  let method ← Emission.name "pop transition" transition g.line
  let arguments ← Emission.expressions "pop argument" g.popArguments g.line
  return { transition, method, arguments }

/-- The move of a guard whose end state is the variant `target`. -/
def Move.ofGuard (m : Machine) (map : Map) (g : Guard) (target : Option Variant) :
    Emission Move :=
  match g.transfer with
  | .set _ => return target.elim .stay .go
  | .push _ pushed => return .push target (← Variant.ofReference m map g.line pushed)
  | .pop transition _ => return .pop (← transition.mapM (Issue.ofGuard g))

/-- The condition of a guard. -/
def Branch.conditionOf (g : Guard) : Emission (Option Rust.Fragment) :=
  if g.isUnconditional then return none
  else return some (← Emission.expression "guard condition" g.condition g.line)

/-- The branch of a guard of the transition `t` in a state of the map `map`. -/
def Branch.ofGuard (m : Machine) (o : OutputOptions) (map : Map) (state : State)
    (t : Transition) (g : Guard) : Emission Branch := do
  let target ← g.endReference?.mapM (Variant.ofReference m map g.line)
  let commands ← Command.ofActions g.actions
  let move ← Move.ofGuard m map g target
  return {
    condition := (← Branch.conditionOf g)
    statements := body o state.isDefault t move commands }

end StateMachine.Program
