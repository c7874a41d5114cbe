import StateMachine.Machine.Defect
import StateMachine.Machine.Guard

/-!
# Transitions

A transition has a name, parameters and a chain of guards, of which the first whose
condition holds is taken. A guard without condition is always taken, so nothing may follow
it: `Transition.addGuard` refuses a guard that could never be reached.
-/

namespace StateMachine

/-- A parameter of a transition; its type is text of the output language. -/
structure Parameter where
  name : String
  type : String
  line : Nat := 0
  deriving DecidableEq, Repr

/-- The parameter as written: `name: type`. -/
def Parameter.text (p : Parameter) : String :=
  p.name ++ ": " ++ p.type

/-- A named chain of guards. -/
structure Transition where
  name : String
  line : Nat := 0
  parameters : List Parameter := []
  guards : List Guard := []
  deriving DecidableEq, Repr

namespace Transition

/-- Whether one of the guards is taken whenever it is reached. -/
def hasUnconditionalGuard (t : Transition) : Bool :=
  t.guards.any Guard.isUnconditional

/-- The transition with `parameters` after its own. -/
def withParameters (t : Transition) (parameters : List Parameter) : Transition :=
  { t with parameters := t.parameters ++ parameters }

/-- The transition with `guard` at the end of its chain, unless a guard before it is always
taken. -/
def addGuard (t : Transition) (guard : Guard) : Except Defect Transition :=
  if t.hasUnconditionalGuard then
    .error (.guardAfterUnconditional t.name guard.line)
  else
    .ok { t with guards := t.guards ++ [guard] }

/-- The types of the parameters, in order. -/
def parameterTypes (t : Transition) : List String :=
  t.parameters.map Parameter.type

/-- The parameters as written, with commas between them. -/
def parametersText (t : Transition) : String :=
  ", ".intercalate (t.parameters.map Parameter.text)

end Transition

end StateMachine
