import StateMachine.Listing.Basic
import StateMachine.Program.Rendering

/-!
# Generation

From a machine to one of the outputs. A machine that fails validation is reported and not
generated. A listing of a valid machine never fails; a program can.

A program is laid out by a printer. It is not made for all of Rust: where a part of a program has
no normal form, it panics. This is no error that is reported, and is told apart from these.
-/

namespace StateMachine

/-- What was generated. -/
inductive Output where
  | listing (text : String)
  /-- A Rust module: the text in front of the code, and the lines of the code. -/
  | rust (head : String) (lines : List String)
  deriving DecidableEq, Repr

/-- Why there is no output. -/
inductive GenerationFailure where
  | reported (e : GenerationError)
  /-- The program is Rust, but the printer panics at a part of it that has no normal form. -/
  | printerPanic
  deriving DecidableEq, Repr

namespace Machine

/-- The comment at the head of a program. -/
def headComment (m : Machine) : String :=
  match m.sourceFile with
  | some file => s!"// Generated by fsmc from {file}. Do not edit.\n\n"
  | none => "// Generated by fsmc. Do not edit.\n\n"

/-- The text in front of a program: the head comment, then the source text without blanks
at its end. -/
def head (m : Machine) : String :=
  m.headComment ++ (m.source.elim "" fun source => Text.trimEnd source ++ "\n\n")

end Machine

/-- The output of a validated machine. -/
def Validated.generate (v : Validated) (kind : OutputKind) (o : OutputOptions) :
    Except GenerationFailure Output :=
  match kind with
  | .listing => .ok (.listing (Listing.render o.detail v))
  | .rust => do
    let program ← (v.program o).mapError .reported
    if !program.isWellFormed then throw (.reported .unparsable)
    match program.lines? with
    | some lines => return .rust v.machine.head lines
    | none => throw .printerPanic

/-- The output of a machine. -/
def Machine.generate (m : Machine) (kind : OutputKind) (o : OutputOptions) :
    Except GenerationFailure Output :=
  match m.validate with
  | .ok v => v.generate kind o
  | .error defect => .error (.reported (.invalid defect))

end StateMachine
