import StateMachine.Rust.Grammar.Construct
import StateMachine.Rust.Grammar.Parser
import StateMachine.Rust.Literal
import StateMachine.Rust.Remark
import StateMachine.Rust.Spacing

/-!
# Rules of the Grammar

The grammar is recursive, but its rules are not: each is written over `Rules`, which parse
every construct that a rule may contain, and `StateMachine.Rust.Grammar.Basic` ties the
knot.

This module has the rules that every other one needs: macro calls, attributes and blocks.

## Main definitions

* `Rule`: the names of the recursive constructs.
* `Rules`: a parser for each of them.
-/

namespace StateMachine.Rust.Grammar

/-- A path, with what later rules must know of it. -/
structure Path where
  /-- The path without the arguments of its last name. -/
  front : List Piece
  /-- The arguments of the last name in angle brackets. -/
  arguments : List Piece := []
  /-- Whether the path begins with `::`. -/
  leading : Bool := false
  /-- The number of names. -/
  segments : Nat := 1
  /-- Whether no name has angle brackets behind it. -/
  isPlain : Bool := true
  /-- Whether the last name has no arguments, though perhaps angle brackets. -/
  isOpen : Bool := true

/-- All pieces of a path. -/
def Path.pieces (p : Path) : List Piece := p.front ++ p.arguments

/-- A bound of a type. -/
structure Bound where
  pieces : List Piece
  /-- The bound without parentheses around it. -/
  inside : List Piece
  /-- Whether the bound is a trait, and no lifetime or capture. -/
  isTrait : Bool := false

/-- The constructs that contain each other. Where `structs` is false, a brace behind a path
opens a block and no struct literal. -/
inductive Rule where
  | expression (structs : Bool)
  /-- An operand with its unary operators. -/
  | unary (structs : Bool)
  /-- The right operand of an operator of the given level. -/
  | operand (structs : Bool) (level : Level)
  /-- What binds tighter than the given level behind an operand. -/
  | operandMore (lhs : Expr) (structs : Bool) (level : Level)
  /-- What an expression goes on with, for operators that bind no looser than `base`. -/
  | continuation (lhs : Expr) (structs : Bool) (base : Level)
  /-- An expression that ends early behind a block: a statement or the body of an arm. -/
  | boundary
  /-- The statements of a block. -/
  | statements
  /-- A type; with `plus`, bounds may be added to it. -/
  | type (plus : Bool)
  /-- A path; in expressions, `::` stands before arguments. -/
  | path (inExpression : Bool)
  /-- A bound, perhaps the captured parameters, perhaps one on constant traits. -/
  | bound (captures constants : Bool)
  | pattern
  /-- Patterns with bars between them. -/
  | alternatives
  /-- The fields of a struct, in braces. -/
  | fields
  | item

/-- What a construct is read as. -/
abbrev Rule.Result : Rule → Type
  | .expression _ | .unary _ | .operand _ _ | .operandMore _ _ _ | .continuation _ _ _
  | .boundary => Expr
  | .statements => List Stmt
  | .type _ => Ty
  | .path _ => Path
  | .bound _ _ => Bound
  | .pattern | .alternatives => Pat
  | .fields | .item => List Piece

/-- A parser for each construct. -/
abbrev Rules := (r : Rule) → P r.Result

namespace Rules

/-- The pieces of an expression. -/
def expression (g : Rules) (structs : Bool) : P (List Piece) := do
  let e : Expr ← g (.expression structs)
  return e.pieces

/-- The pieces of a type. -/
def type (g : Rules) (plus : Bool) : P (List Piece) := do
  let t : Ty ← g (.type plus)
  return t.pieces

/-- The pieces of a path. -/
def path (g : Rules) (inExpression : Bool) : P (List Piece) := do
  let p : Path ← g (.path inExpression)
  return p.pieces

/-- The pieces of a bound that captures nothing. -/
def bound (g : Rules) (constants : Bool) : P (List Piece) := do
  let b : Bound ← g (.bound false constants)
  return b.pieces

/-- The pieces of a pattern. -/
def pattern (g : Rules) : P (List Piece) := do
  let p : Pat ← g .pattern
  return p.pieces

/-- The pieces of patterns with bars between them. -/
def alternatives (g : Rules) : P (List Piece) := do
  let p : Pat ← g .alternatives
  return p.pieces

end Rules

/-! ### Macro calls -/

/-- Trees as they were written and as their text in normal form is read again. -/
def reread (written : List Piece) (text : String) : List Piece :=
  match Spacing.read? text with
  | some trees => [.either written (Tree.pieces trees)]
  | none => [.writtenOnly written]

/-- What a macro is given. In braces it has lines of its own. -/
def macroInput (d : Delimiter) (body : List Tree) : List Piece :=
  let input := reread [.group d (Tree.pieces body)] (Spacing.macroText d body)
  if d = .brace && !body.isEmpty then .lineEnd :: input else input

/-- Whether a macro call is ahead of a path. -/
def atCall (ts : List Tree) : Bool :=
  atOp "!" ts && !atOp "!=" ts

/-- A macro call behind its path, and the brackets. -/
def callBehind : P (List Piece × Delimiter) := do
  let mark ← op "!"
  let (d, body) ← anyGroup
  return (mark ++ macroInput d body, d)

/-- Whether a name of a path without arguments is ahead. -/
def atPlainName (ts : List Tree) : Bool :=
  atIdent ts || atAnyWord ["super", "self", "Self", "crate"] ts

/-- Names without arguments and `::` between them. -/
def plainPath : P (List Piece) := do
  let name : P (List Piece) := do
    require (atPlainName (← get))
    anyIdent
  sequence [op? "::", name, manyWhile (atOp "::") (sequence [op "::", name])]

/-! ### Attributes -/

/-- The inside of an attribute, and the comment that it stands for, if it can be one. -/
structure AttributeBody where
  pieces : List Piece
  comment : Option String := none

/-- The comment that a name with a text stands for. -/
def commentOf? (inner : Bool) (name : List Piece) (text : String) : Option String :=
  match name with
  | [.token "doc"] => (stringValue? text).bind (Remark.documentation? inner)
  | [.token "comment"] => (stringValue? text).bind Remark.remark?
  | _ => none

/-- The value of an attribute behind its name: a literal, or an expression without
attributes in front. -/
def attributeValue (g : Rules) (inner : Bool) (name : List Piece) : P AttributeBody := do
  let sign ← op "="
  let ts ← get
  match ts with
  | [.leaf (.literal .string text)] =>
    let value ← literal
    return { pieces := name ++ sign ++ value, comment := commentOf? inner name text }
  | _ =>
    require !(atOp "#" ts && atGroup .bracket (ts.drop 1))
    return { pieces := name ++ sign ++ (← g.expression true) }

/-- The list of an attribute. -/
def attributeList : P (List Piece) := do
  let (d, body) ← anyGroup
  return reread [.group d (Tree.pieces body)] (Spacing.attributeText d body)

/-- The inside of an attribute: a path, then trees in brackets, or a value, or nothing. -/
def attributeBody (g : Rules) (inner : Bool) : P AttributeBody := do
  let name ← do if ← ahead (atWord "unsafe") then word "unsafe" else plainPath
  let ts ← get
  if atGroup .paren ts || atGroup .bracket ts || atGroup .brace ts then
    return { pieces := name ++ (← attributeList) }
  else if atOp "=" ts && !atAnyOp ["==", "=>"] ts then attributeValue g inner name
  else return { pieces := name }

/-- An attribute behind its mark. In normal form it is a comment if it stands for one. -/
def attributeBehind (g : Rules) (inner : Bool) (mark : List Piece) : P (List Piece) := do
  let body ← inGroup .bracket (attributeBody g inner)
  let written := mark ++ [.group .bracket body.pieces]
  match body.comment with
  | none => return written
  | some comment =>
    match Remark.read comment with
    | some trees => return [.either written (Tree.pieces trees), .lineEnd]
    | none => return [.writtenOnly written]

/-- The attributes of what follows. -/
def outerAttributes (g : Rules) : P (List Piece) :=
  manyWhile (atOp "#") do attributeBehind g false (← op "#")

/-- Whether an attribute of what contains it is ahead. -/
def atInnerAttribute (ts : List Tree) : Bool :=
  atOp "#" ts && atOp "!" (ts.drop 1)

/-- The attributes of what contains them. -/
def innerAttributes (g : Rules) : P (List Piece) :=
  manyWhile atInnerAttribute do
    attributeBehind g true (← sequence [op "#", op "!"])

/-! ### Blocks -/

/-- A block that may have attributes in it. -/
def attributedBlock (g : Rules) : P Expr :=
  inGroup .brace do return .block [] [] (← innerAttributes g) (← g .statements)

/-- A block that may have attributes in it, as pieces. -/
def attributedBlockPieces (g : Rules) : P (List Piece) := do
  return (← attributedBlock g).pieces

/-- A block that has no attributes in it. -/
def plainBlock (g : Rules) : P (List Piece) :=
  inGroup .brace do return braces (blockPieces (← g .statements))

/-- The block of a loop or function. In normal form a single value in it is a statement like
any other. -/
def bodyBlock (g : Rules) : P (List Piece) :=
  inGroup .brace do
    let inner ← innerAttributes g
    let body := inner ++ statementPieces (← g .statements)
    return braces (if inner.isEmpty then body else .lineEnd :: body)

end StateMachine.Rust.Grammar
