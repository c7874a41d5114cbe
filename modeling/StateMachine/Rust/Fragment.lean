import StateMachine.Rust.Grammar.Basic
import StateMachine.Rust.Lexer
import StateMachine.Text.Blank

/-!
# Rust Fragments

A description holds texts that are Rust already: conditions, arguments, types, imports,
names. A fragment is such a text once it has been read. What reads fragments says what the
text is for, and on which line it stands, so that a text that cannot be read is reported
with both (`readBy`). This is all that generation knows of reading, whatever it is that is
read: a grammar is asked for a fragment or none.

An expression that is read as a whole need not be a condition: a struct literal, or a
`return`, would swallow the block behind the condition. `Fragment.isCondition` is the
further test.
-/

namespace StateMachine.Rust

/-- A text that is not what it has to be. -/
structure Malformed where
  /-- What the text has to be. -/
  what : String
  text : String
  line : Nat
  deriving DecidableEq, Repr

section

variable {α : Type} {parse? : String → Option α} {what what' text : String} {line line' : Nat}
  {x : α}

/-- What `parse?` makes of a text. If it makes nothing of it, the text is reported. -/
def readBy (parse? : String → Option α) (what text : String) (line : Nat) :
    Except Malformed α :=
  match parse? text with
  | none => .error ⟨what, text, line⟩
  | some x => .ok x

/-- What is read is what `parse?` makes of the text. -/
theorem readBy_eq_ok_iff : readBy parse? what text line = .ok x ↔ parse? text = some x := by
  unfold readBy
  cases parse? text <;> simp

/-- What a text is for, and where it stands, does not matter to what is read. -/
theorem readBy_eq_ok_of_readBy (h : readBy parse? what text line = .ok x) :
    readBy parse? what' text line' = .ok x :=
  readBy_eq_ok_iff.mpr (readBy_eq_ok_iff.mp h)

end

/-- A Rust text that was read. -/
structure Fragment where
  trees : List Tree
  pieces : List Piece

namespace Fragment

/-- The tokens of a fragment as they are written on their own. -/
def tokens (f : Fragment) : List String :=
  dropCommas (tokensOf false f.pieces)

/-- The fragment that a text is by a rule of the grammar. -/
def parse? (rule : Grammar.Rules → Grammar.P (List Piece)) (text : String) :
    Option Fragment := do
  let trees ← Lexer.lex text
  let pieces ← Grammar.parseAll rule trees
  return { trees, pieces }

/-- Reads an expression. -/
def expression : (what text : String) → (line : Nat) → Except Malformed Fragment :=
  readBy (parse? fun g => g.expression true)

/-- Reads the type of a parameter. -/
def type (text : String) (line : Nat) : Except Malformed Fragment :=
  readBy (parse? fun g => g.type true) "parameter type" text line

/-- Reads a path. -/
def path : (what text : String) → (line : Nat) → Except Malformed Fragment :=
  readBy (parse? fun g => g.path false)

/-- The characters behind each `use` and blank in front. -/
def dropUse : List Char → List Char
  | 'u' :: 's' :: 'e' :: ' ' :: rest => dropUse rest
  | cs => cs

/-- The text of an import without `use` in front and semicolons behind. -/
def importText (text : String) : String :=
  let cs := dropUse (Text.trim text).toList
  String.ofList (cs.reverse.dropWhile (· = ';')).reverse

/-- Reads an import, which may be written as a statement. -/
def importPath (text : String) (line : Nat) : Except Malformed Fragment :=
  readBy (parse? fun _ => Grammar.importTree) "import" (importText text) line

/-- Whether an expression can be a condition: what stands before a block, with the whole
block left over. -/
def isCondition (f : Fragment) : Bool :=
  let condition := Grammar.withGrammar fun g => g.expression false
  match condition.run (f.trees ++ [.group .brace []]) with
  | some (_, [.group .brace []]) => true
  | _ => false

/-- A path as it stands in expressions, if it can stand there. -/
def pathInExpression? (f : Fragment) : Option (List Piece) :=
  Grammar.parseAll (fun g => g.path true) f.trees

/-- A path as it stands in types, if it can stand there. -/
def pathInType? (f : Fragment) : Option (List Piece) :=
  Grammar.parseAll (fun g => g.type true) f.trees

end Fragment

/-! ### Names -/

/-- The identifier that a text is, which may have blank ends. -/
def Ident.parse? (text : String) : Option Ident :=
  match Lexer.lex (Text.trim text) with
  | some [.leaf (.ident i)] => if i.isKeyword then none else some i
  | _ => none

/-- Reads an identifier. -/
def Ident.read : (what text : String) → (line : Nat) → Except Malformed Ident :=
  readBy Ident.parse?

/-- The enumeration of the states of the owner's machine. -/
def Ident.stateEnum (owner : Ident) : Ident := owner.extend "State"

/-- The context that drives the owner's machine. -/
def Ident.context (owner : Ident) : Ident := owner.extend "Context"

/-- The context for use from several threads. -/
def Ident.sharedContext (owner : Ident) : Ident := owner.extend "SharedContext"

/-- The variant of a state: `Map_State`. -/
def Ident.ofState (map state : String) (line : Nat) : Except Malformed Ident :=
  Ident.read "state name" (map ++ "_" ++ state) line

/-- The handler of a transition in a state: `Map_State_Transition`. -/
def Ident.ofHandler (map state transition : String) (line : Nat) :
    Except Malformed Ident :=
  Ident.read "transition name" (map ++ "_" ++ state ++ "_" ++ transition) line

end StateMachine.Rust
