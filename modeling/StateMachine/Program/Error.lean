import StateMachine.Machine.Defect
import StateMachine.Rust.Fragment

/-!
# What Can Go Wrong in Generation

A machine that fails validation is not generated at all. A valid one can still use texts
that are not Rust, or transitions for which the program would have no method; and a program
made of good fragments can be bad as a whole.
-/

namespace StateMachine

/-- Why a transition has no method. -/
inductive SignatureProblem where
  /-- A `Default` transition takes parameters. -/
  | defaultParameters
  /-- Transitions of one name take parameters of different types. -/
  | overloaded
  /-- The context has a method of that name already. -/
  | reserved
  deriving DecidableEq, Repr

/-- How a signature problem is reported. -/
def SignatureProblem.reason : SignatureProblem → String
  | .defaultParameters => "is a Default transition and cannot take parameters"
  | .overloaded => "is declared with different parameter lists; Rust output needs one per name"
  | .reserved => "collides with a generated method"

/-- Errors that are reported when nothing is generated. -/
inductive GenerationError where
  | invalid (defect : Defect)
  | signature (transition : String) (problem : SignatureProblem) (line : Nat)
  | malformed (text : Rust.Malformed)
  /-- A property is to be set, and no value is given. -/
  | missingValue (property : String) (line : Nat)
  /-- A reference that means no state. In a valid machine there is none. -/
  | unresolved (target : Reference)
  /-- The program is not Rust, though its fragments are. -/
  | unparsable
  deriving DecidableEq, Repr

/-- How a generation error is reported, if it is reported by a message of its own. -/
def GenerationError.message : GenerationError → String
  | .invalid defect => defect.message
  | .signature transition problem line =>
    s!"line {line}: transition `{transition}` " ++ problem.reason
  | .malformed _ => ""
  | .missingValue _ _ => "assignment has no value"
  | .unresolved target => s!"state `{target.text}` did not resolve after validation"
  | .unparsable => "generated code does not parse"

/-- The result of generating a part of a program. -/
abbrev Emission := Except GenerationError

namespace Emission

/-- Reads a name that the description gives. -/
def name (what text : String) (line : Nat) : Emission Rust.Ident :=
  (Rust.Ident.read what text line).mapError .malformed

/-- Reads an expression that the description gives. -/
def expression (what text : String) (line : Nat) : Emission Rust.Fragment :=
  (Rust.Fragment.expression what text line).mapError .malformed

/-- Reads expressions that the description gives. -/
def expressions (what : String) (texts : List String) (line : Nat) :
    Emission (List Rust.Fragment) :=
  texts.mapM fun text => expression what text line

end Emission

end StateMachine
