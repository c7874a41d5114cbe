import StateMachine.Rust.Token

/-!
# Rust Constructs

What the grammar gives for expressions, statements, types and patterns: the pieces of the
construct, and what the rules around it must know.

A block is a sequence of statements; every other expression is given by its pieces. Blocks
are kept apart because their normal form depends on where they stand.

## Conventions

In normal form

* statements that are empty vanish, an assignment or a jump at the end of a block gets a
  semicolon, and a `for`, a `while` or an `if` without `else` loses it;
* a block whose only statement is a value keeps that value as it is, except where the block
  belongs to a loop, a function or an `if` without `else`;
* the body of a closure or of an arm loses each block around a single value;
* a body that spans lines is put in braces, which stay if there is more than a value then,
  or in parentheses if it would end early in braces.

A range takes no operator behind it, so what stands left of an operator can bind looser than
the operator does. It is put in parentheses then.

Functions on expressions have a partner on statements, so that the recursion is structural.
-/

namespace StateMachine.Rust.Grammar

/-! ### Normal form of pieces -/

/-- A part that is left out in normal form. -/
def dropped (ps : List Piece) : List Piece :=
  if ps.isEmpty then [] else [.either ps []]

/-- A part that is added in normal form. -/
def added (ps : List Piece) : List Piece :=
  [.either [] ps]

/-- A semicolon. -/
def semicolon : List Piece := [.token ";"]

/-- Pieces with commas between them. -/
def joinCommas : List (List Piece) → List Piece
  | [] => []
  | [item] => item
  | item :: rest => item ++ .token "," :: joinCommas rest

/-! ### Expressions and statements -/

/-- How tightly an expression or operator binds, from the loosest on. -/
inductive Level where
  /-- What goes on as far as it can, such as a closure. -/
  | none
  | assign
  | range
  | or
  | and
  | letting
  | compare
  | bitOr
  | bitXor
  | bitAnd
  | shift
  | sum
  | product
  | cast
  /-- What no operator can take apart. -/
  | atom
  deriving DecidableEq, Repr

/-- The rank of a level; tighter is higher. -/
def Level.rank : Level → Nat
  | .none => 0
  | .assign => 1
  | .range => 2
  | .or => 3
  | .and => 4
  | .letting => 5
  | .compare => 6
  | .bitOr => 7
  | .bitXor => 8
  | .bitAnd => 9
  | .shift => 10
  | .sum => 11
  | .product => 12
  | .cast => 13
  | .atom => 14

/-- Whether what binds like `inner` can stand left of an operator that binds like `outer`.
Nothing that binds looser than the operator can, no comparison left of a comparison, and
neither a range nor an assignment left of one of them. -/
def Level.fitsLeftOf (inner outer : Level) : Bool :=
  match outer with
  | .assign | .range => Level.range.rank < inner.rank
  | .compare => Level.compare.rank < inner.rank
  | _ => outer.rank ≤ inner.rank

/-- The kinds of expressions that other rules tell apart. -/
inductive Form where
  | plain
  /-- A range, which may not stand left of an operator. -/
  | range
  /-- An operator or `let` of the given level, with its operands. -/
  | operation (level : Level)
  /-- A closure whose body goes on as far as it can. -/
  | closure
  /-- An expression that never has a value, such as `return`, perhaps with a value for what
  it jumps to. -/
  | jump (hasValue : Bool)
  /-- `()`. -/
  | unit
  /-- The call of a function. -/
  | application
  /-- A macro call, with its brackets. -/
  | call (d : Delimiter)
  /-- An `if` without a final `else`, a `for` or a `while`. -/
  | valueless
  /-- Any other expression that ends with its own block. -/
  | blocklike
  deriving DecidableEq, Repr

/-- Whether an expression ends with its own block, so that it is a statement without
semicolon and an arm without comma. -/
def Form.isBlocklike : Form → Bool
  | .valueless | .blocklike => true
  | _ => false

/-- Whether an expression is an assignment or a jump, so that it has a semicolon at the end
of a block, too. -/
def Form.isCommand : Form → Bool
  | .operation .assign | .jump _ => true
  | _ => false

/-- Whether an expression is a whole statement, to which nothing is added behind it. -/
def Form.isStatement : Form → Bool
  | .valueless | .blocklike | .call .brace => true
  | _ => false

/-- How tightly an expression binds. -/
def Form.level : Form → Level
  | .range => .range
  | .operation level => level
  | .closure | .jump true => .none
  | _ => .atom

/-- An expression that is no block. -/
structure Term where
  attributes : List Piece := []
  core : List Piece
  form : Form := .plain
  /-- Whether it begins with a part that no rule covers. It loses attributes in front. -/
  isForeign : Bool := false
  /-- In how many parentheses the operand is that it begins with. -/
  depth : Nat := 0
  /-- Whether it begins with a whole statement, so that it would end early as one. -/
  endsEarly : Bool := false

/-- All pieces of a term. -/
def Term.pieces (t : Term) : List Piece := t.attributes ++ t.core

mutual

/-- An expression. -/
inductive Expr where
  /-- A block with the attributes before it, its label, and the attributes in it. -/
  | block (attributes label inner : List Piece) (body : List Stmt)
  | term (t : Term)

/-- A statement. -/
inductive Stmt where
  /-- A semicolon alone. -/
  | empty
  | value (e : Expr) (hasSemicolon : Bool)
  /-- A macro call that is no expression. -/
  | call (pieces : List Piece) (hasSemicolon : Bool)
  /-- A binding or an item. -/
  | other (pieces : List Piece)

end

/-- The kind of an expression. -/
def Expr.form : Expr → Form
  | .block .. => .blocklike
  | .term t => t.form

/-- A statement without effect on the normal form. -/
def Stmt.isEmpty : Stmt → Bool
  | .empty => true
  | _ => false

/-- Whether a value with or without semicolon has none in normal form. -/
def Expr.endsBare (e : Expr) (hasSemicolon : Bool) : Bool :=
  if hasSemicolon then e.form = .valueless else !e.form.isCommand

/-- The semicolon of a value. -/
def Expr.ending (e : Expr) (hasSemicolon : Bool) : List Piece :=
  match hasSemicolon, e.endsBare hasSemicolon with
  | true, true => dropped semicolon
  | true, false => semicolon
  | false, true => []
  | false, false => added semicolon

/-- Braces. -/
def braces (inside : List Piece) : List Piece := [.group .brace inside]

mutual

/-- The pieces of an expression. -/
def Expr.pieces : Expr → List Piece
  | .block attributes label inner [.value e false] =>
    attributes ++ label ++ braces (inner ++ e.pieces)
  | .block attributes label inner body =>
    attributes ++ label ++ braces (inner ++ statementPieces body)
  | .term t => t.pieces

/-- The pieces of statements. -/
def statementPieces : List Stmt → List Piece
  | [] => []
  | .empty :: rest => dropped semicolon ++ statementPieces rest
  | .value e hasSemicolon :: rest =>
    e.pieces ++ e.ending hasSemicolon ++ .lineEnd :: statementPieces rest
  | .call pieces hasSemicolon :: rest =>
    pieces ++ (if hasSemicolon then semicolon else []) ++ .lineEnd :: statementPieces rest
  | .other pieces :: rest => pieces ++ .lineEnd :: statementPieces rest

end

/-- The pieces of the statements of a block that keeps a single value as it is. -/
def blockPieces : List Stmt → List Piece
  | [.value e false] => e.pieces
  | body => statementPieces body

/-- An expression as the body of something, in normal form. -/
structure Body where
  pieces : List Piece
  form : Form

/-- A term as the body of an arm. One that spans lines is put in braces, which stay around a
command, for its semicolon, and around a macro call in braces, which is no value then. -/
def Term.inArm (t : Term) : Body :=
  if !spanLines t.pieces then ⟨t.pieces, t.form⟩
  else if t.form.isCommand then ⟨braces (t.pieces ++ semicolon), .blocklike⟩
  else if t.form = .call .brace then ⟨braces t.pieces, .blocklike⟩
  else ⟨t.pieces, t.form⟩

/-- A term as the body of a closure, in normal form. Here, too, one that spans lines is put in
braces, or in parentheses if it would end early in braces; but not a call. -/
def Term.inClosure (t : Term) : List Piece :=
  let isCall := t.attributes.isEmpty && t.form = .application
  if t.endsEarly && spanLines t.pieces && !isCall then [.group .paren t.pieces]
  else t.inArm.pieces

mutual

/-- An expression without blocks around a single value. -/
def Expr.unwrapped : Expr → Body
  | .block [] [] [] [.value e false] => e.unwrapped
  | .block [] [] [] body =>
    (soleValue? body).getD ⟨braces (statementPieces body), .blocklike⟩
  | e => ⟨e.pieces, e.form⟩

/-- The value that statements come down to in normal form, without blocks around it. -/
def soleValue? : List Stmt → Option Body
  | [] => none
  | .empty :: rest => soleValue? rest
  | .value e hasSemicolon :: rest =>
    if rest.all Stmt.isEmpty && e.endsBare hasSemicolon then some e.unwrapped else none
  | _ :: _ => none

end

/-- An expression as the body of an arm: blocks around a single value are left out, `()`
becomes an empty block, and a block loses the attributes before it. -/
def Expr.inArm : Expr → Body
  | .block [] [] [] [.value e false] => e.inArm
  | .block _ [] [] body =>
    (soleValue? body).getD ⟨braces (statementPieces body), .blocklike⟩
  | .block _ label inner body => ⟨label ++ braces (inner ++ statementPieces body), .blocklike⟩
  | .term t =>
    if t.attributes.isEmpty && t.form = .unit then ⟨braces [], .blocklike⟩ else t.inArm

namespace Expr

/-- An expression without attributes that is no block. -/
def of (core : List Piece) (form : Form) : Expr :=
  .term { core, form }

/-- An expression of no particular kind. -/
def plain (core : List Piece) : Expr := .of core .plain

/-- An expression that no rule covers, as it was written. -/
def foreign (written : List Piece) : Expr :=
  .term { core := [.writtenOnly written], isForeign := true }

/-- The expression as a term. -/
def asTerm : Expr → Term
  | .block attributes label inner body =>
    { core := (Expr.block attributes label inner body).pieces, form := .blocklike }
  | .term t => { t with attributes := [], core := t.pieces }

/-- The expression left of something of the given level, in parentheses if it does not fit
there. With `breaks`, what is behind it cannot go on behind a whole statement. -/
def leftOf (e : Expr) (level : Level) (breaks : Bool) : Term :=
  let t := e.asTerm
  if t.form.level.fitsLeftOf level then
    { t with endsEarly := t.endsEarly || (breaks && t.form.isStatement) }
  else { t with core := [.group .paren t.core], depth := t.depth + 1, endsEarly := false }

/-- The expression with an operator of the given level and its right operand behind it, or
with a cast. -/
def extend (e : Expr) (level : Level) (more : List Piece) : Expr :=
  let left := e.leftOf level true
  .term { left with core := left.core ++ more, form := .operation level }

/-- The expression with attributes in front. -/
def attributed (attributes : List Piece) : Expr → Expr
  | .block before label inner body => .block (attributes ++ before) label inner body
  | .term t => .term { t with attributes := attributes ++ t.attributes }

/-- Pieces with attributes in front, in so many parentheses as `depth` says. -/
def insertAttributes (attributes : List Piece) : Nat → List Piece → List Piece
  | n + 1, .group .paren inside :: rest =>
    .group .paren (insertAttributes attributes n inside) :: rest
  | _, pieces => attributes ++ pieces

/-- An expression with attributes in front of its first operand. A foreign operand loses
them, and a range, which has attributes as a whole, is put in parentheses. -/
def attributedFirst (attributes : List Piece) : Expr → Expr
  | .block before label inner body => .block (attributes ++ before) label inner body
  | .term t =>
    if attributes.isEmpty || t.isForeign then .term t
    else if t.form = .range then .term { attributes, core := [.group .paren t.pieces] }
    else if t.depth = 0 then .term { t with attributes := attributes ++ t.attributes }
    else .term { t with core := insertAttributes attributes t.depth t.core }

/-- The body of a closure: its normal form has no blocks around a single value. -/
def closureBody : Expr → List Piece
  | .block attributes label inner body =>
    let e := Expr.block attributes label inner body
    [.either e.pieces e.unwrapped.pieces]
  | .term t => [.either t.pieces t.inClosure]

end Expr

/-! ### Types -/

/-- The kinds of types that other rules tell apart. -/
inductive TypeKind where
  | plain
  /-- A single name, with or without arguments in angle brackets. -/
  | name
  /-- Any other path that begins with no type in angle brackets. -/
  | path
  /-- A single bound, without parentheses around it. -/
  | bound (inside : List Piece)

/-- A type. -/
structure Ty where
  pieces : List Piece
  kind : TypeKind := .plain

/-- Whether a type is a path that a trait can have. -/
def Ty.isPath (t : Ty) : Bool :=
  match t.kind with
  | .name | .path => true
  | _ => false

/-! ### Patterns -/

/-- The kinds of patterns that other rules tell apart. -/
inductive PatternKind where
  | plain
  /-- A range with a missing end. -/
  | openRange
  /-- A pattern that no rule covers. -/
  | foreign
  deriving DecidableEq, Repr

/-- A pattern. -/
structure Pat where
  pieces : List Piece
  kind : PatternKind := .plain

end StateMachine.Rust.Grammar
