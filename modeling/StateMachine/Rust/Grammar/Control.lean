import StateMachine.Rust.Grammar.Pattern

/-!
# Rust Control Flow

Conditionals, loops, matches, closures and jumps.

The condition of an `if` or `while` and what `for` and `match` look at end before a brace;
so no struct literal may stand there outside of brackets.
-/

namespace StateMachine.Rust.Grammar

/-! ### Conditionals and loops -/

/-- `if` and a condition. -/
def condition (g : Rules) : P (List Piece) :=
  sequence [word "if", g.expression false]

/-- Whether a further conditional is ahead behind `else`. -/
def atElseIf (ts : List Tree) : Bool :=
  atWord "else" ts && atWord "if" (ts.drop 1)

/-- The branches behind the first one, and whether the last one has no condition. -/
def furtherBranches (g : Rules) : P (List Piece × Bool) := do
  let more ← manyWhile atElseIf (sequence [word "else", condition g, plainBlock g])
  if ← ahead (atWord "else") then
    return (more ++ (← sequence [word "else", plainBlock g]), true)
  else return (more, false)

/-- A conditional with all its branches. It has a value only if the last branch has no
condition. -/
def conditional (g : Rules) : P Expr := do
  let head ← condition g
  let body : List Stmt ← inGroup .brace (g .statements)
  let (more, isComplete) ← furtherBranches g
  let first := braces (if more.isEmpty then statementPieces body else blockPieces body)
  return .of (head ++ first ++ more) (if isComplete then .blocklike else .valueless)

/-- A `for`, `while` or `loop`, behind its label. -/
def repetition (g : Rules) (label : List Piece) : P Expr := do
  let ts ← get
  if atWord "for" ts then
    let pieces ← sequence [word "for", g.alternatives, word "in", g.expression false,
      bodyBlock g]
    return .of (label ++ pieces) .valueless
  else if atWord "while" ts then
    let pieces ← sequence [word "while", g.expression false, bodyBlock g]
    return .of (label ++ pieces) .valueless
  else
    let pieces ← sequence [word "loop", bodyBlock g]
    return .of (label ++ pieces) .blocklike

/-- A block behind its label. -/
def labeledBlock (g : Rules) (label : List Piece) : P Expr :=
  inGroup .brace do return .block [] label (← innerAttributes g) (← g .statements)

/-- A loop or block behind a label. -/
def labeled (g : Rules) : P Expr := do
  let label ← sequence [lifetime, op ":"]
  if ← ahead (atGroup .brace) then labeledBlock g label else repetition g label

/-! ### Matches -/

/-- The condition of an arm, if there is one. -/
def armCondition (g : Rules) : P (List Piece) := do
  if ← ahead (atWord "if") then sequence [word "if", g.expression true] else return []

/-- The body of an arm and its comma in normal form. The comma is missing behind blocks
only. -/
def normalArm (e : Expr) : List Piece :=
  let body := e.inArm
  if body.form.isBlocklike then body.pieces else body.pieces ++ [.token ","]

/-- An arm of a match. Its comma may be missing behind a block, and at the end. -/
def arm (g : Rules) : P (List Piece) := do
  let head ← sequence [outerAttributes g, g.alternatives, armCondition g, op "=>"]
  let body : Expr ← g .boundary
  let comma ← do
    if body.form.isBlocklike || (← atEnd) then op? "," else op ","
  return head ++ [.either (body.pieces ++ comma) (normalArm body)]

/-- A match. -/
def matching (g : Rules) : P (List Piece) :=
  sequence [word "match", g.expression false,
    group .brace do
      let inside ← sequence [innerAttributes g,
        many do if ← atEnd then return none else return some (← arm g)]
      return if inside.isEmpty then [] else .lineEnd :: inside]

/-! ### Closures -/

/-- Whether `for` and parameters are ahead, and no loop over a pattern. -/
def atBinder (ts : List Tree) : Bool :=
  atWord "for" ts && atParameters (ts.drop 1)

/-- Whether a closure is ahead. -/
def atClosure (ts : List Tree) : Bool :=
  let next := ts.drop 1
  atOp "|" ts || atWord "move" ts || atBinder ts ||
    (atWord "const" ts && !atGroup .brace next) || atWord "static" ts ||
    (atWord "async" ts && (atOp "|" next || atWord "move" next))

/-- A parameter of a closure. A pattern that no rule covers loses its attributes unless a
type stands behind it. -/
def closureParameter (g : Rules) : P (List Piece) := do
  let attributes ← outerAttributes g
  let pattern : Pat ← g .pattern
  if ← ahead (atOp ":") then
    return attributes ++ pattern.pieces ++ (← sequence [op ":", g.type true])
  else if pattern.kind = .foreign then return pattern.pieces
  else return attributes ++ pattern.pieces

/-- A closure. With a return type its body is a block; without, its normal form has no
block around a single value. -/
def closure (g : Rules) (structs : Bool) : P Expr := do
  let marks ← sequence [binder? g, word? "const", word? "static", word? "async",
    word? "move", op "|"]
  let parameters ← separatedBy "," (atOp "|") (closureParameter g)
  let head := marks ++ dropLast "," parameters ++ (← op "|")
  if ← ahead (atOp "->") then
    return .plain (head ++ (← sequence [op "->", g.type true, plainBlock g]))
  else
    let body : Expr ← g (.expression structs)
    return .of (head ++ body.closureBody) .closure

/-! ### Jumps -/

/-- Whether an expression may begin with what is ahead. -/
def atExpression (ts : List Tree) : Bool :=
  (atAnyIdent ts && !atWord "as" ts) || atLiteral ts || atLifetime ts ||
    atGroup .paren ts || atGroup .bracket ts || atGroup .brace ts ||
    (atOp "!" ts && !atOp "!=" ts) || (atOp "-" ts && !atAnyOp ["-=", "->"] ts) ||
    (atOp "*" ts && !atOp "*=" ts) || (atOp "|" ts && !atOp "|=" ts) ||
    (atOp "&" ts && !atOp "&=" ts) || atAnyOp ["..", "::", "#"] ts ||
    (atOp "<" ts && !atAnyOp ["<=", "<<="] ts)

/-- A jump with a value, if one may begin here and `allowed` holds. -/
def jumpWith (g : Rules) (head : List Piece) (allowed : Bool) : P Expr := do
  if allowed && (← ahead atExpression) then
    return .of (head ++ (← g.expression true)) (.jump true)
  else return .of head (.jump false)

/-- A `break`, perhaps with a label and a value. -/
def breaking (g : Rules) (structs : Bool) : P Expr := do
  let head ← sequence [word "break", lifetime?]
  let ts ← get
  require !(head.length = 2 && atOp ":" ts)
  jumpWith g head (structs || !atGroup .brace ts)

/-- A jump other than `break`, perhaps with a label or a value. -/
def jump (g : Rules) : P Expr := do
  if ← ahead (atWord "continue") then
    return .of (← sequence [word "continue", lifetime?]) (.jump false)
  else jumpWith g (← anyIdent) true

end StateMachine.Rust.Grammar
