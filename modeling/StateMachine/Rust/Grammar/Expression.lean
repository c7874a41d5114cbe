import StateMachine.Rust.Grammar.Control

/-!
# Rust Expressions

An expression is an operand and what it goes on with: binary operators, assignment, ranges
and casts, by level. An operand is an atom with calls, fields and indices behind it and
unary operators in front.
-/

namespace StateMachine.Rust.Grammar

/-! ### Numbers and dots

In normal form a number and the dot behind it touch, and may be read as another number.
-/

/-- Whether a token is a whole number in base ten without suffix. -/
def isWhole (token : String) : Bool :=
  let cs := token.toList
  cs.head?.any Char.isDigit && cs.all fun c => c.isDigit || c = '_'

/-- The selection of a field, whose pieces are known, from a number. -/
def fieldOfNumber (number : String) (more : List Piece) : List Piece :=
  match more with
  | dot :: .token name :: rest =>
    if isWhole number && isWhole name then
      .either [.token number, dot, .token name] [.token (number ++ "." ++ name)] :: rest
    else .token number :: more
  | _ => .token number :: more

/-- Pieces with what stands behind them. A number with a field makes one number; the dot at
the end of a number is left over, and makes a range. -/
def numberWith (before more : List Piece) : List Piece :=
  match before, more with
  | [.token number], dot :: _ =>
    if !dot.isToken "." then before ++ more
    else if number.endsWith "." then
      .either before [.token (number.dropEnd 1).toString, dot] :: more
    else fieldOfNumber number more
  | _, _ => before ++ more

/-- The start of a range. With a dot at its end a number would run into those of the
range. -/
def numberBefore (start : List Piece) : List Piece :=
  match start with
  | [.token number] =>
    if number.endsWith "." then [.writtenOnly start] else start
  | _ => start

/-! ### Operators -/

/-- The binary operators with their levels. Of two where one begins the other, the longer
stands first. -/
def binaryOperators : List (String × Level) :=
  [("+=", .assign), ("-=", .assign), ("*=", .assign), ("/=", .assign), ("%=", .assign),
   ("^=", .assign), ("&=", .assign), ("|=", .assign), ("<<=", .assign), (">>=", .assign),
   ("&&", .and), ("||", .or), ("<<", .shift), (">>", .shift), ("==", .compare),
   ("<=", .compare), ("!=", .compare), (">=", .compare), ("+", .sum), ("-", .sum),
   ("*", .product), ("/", .product), ("%", .product), ("^", .bitXor), ("&", .bitAnd),
   ("|", .bitOr), ("<", .compare), (">", .compare)]

/-- The binary operator ahead. -/
def binaryOperator? (ts : List Tree) : Option (String × Level) :=
  binaryOperators.find? fun (sign, _) => atOp sign ts

/-- Whether an assignment is ahead. -/
def atAssignment (ts : List Tree) : Bool :=
  atOp "=" ts && !atOp "=>" ts

/-- The level of what is ahead of an operand. -/
def levelAhead (ts : List Tree) : Level :=
  match binaryOperator? ts with
  | some (_, level) => level
  | none =>
    if atAssignment ts then .assign
    else if atOp ".." ts then .range
    else if atWord "as" ts then .cast
    else .none

/-- The right operand of an operator of the given level: an operand, and what binds
tighter behind it. -/
def operand (g : Rules) (structs : Bool) (level : Level) : P Expr := do
  g (.operandMore (← g (.unary structs)) structs level)

/-- What binds tighter than the given level behind an operand. Assignment also goes on with
assignment. -/
def operandMore (g : Rules) (lhs : Expr) (structs : Bool) (level : Level) : P Expr := do
  let ts ← get
  let next := levelAhead ts
  if level.rank < next.rank || (next = level && level = .assign) then
    let longer : Expr ← g (.continuation lhs structs next)
    if (← get).length = ts.length then return longer
    else g (.operandMore longer structs level)
  else return lhs

/-- Whether the end of a range without an equals sign is missing. -/
def atRangeEnd (structs : Bool) (ts : List Tree) : Bool :=
  ts.isEmpty || atDot ts || (!structs && atGroup .brace ts) || atWord "as" ts ||
    atAnyOp [",", ";", "?", "=>", "=", "+", "/", "%", "^", ">", "<=", "!=", "-=", "*=",
      "&=", "|=", "<<="] ts

/-- A range behind its start, of which only the pieces and `endsEarly` matter. -/
def range (g : Rules) (structs : Bool) (start : Term) : P Expr := do
  let dots ← do
    if ← ahead (atOp "..=") then op "..="
    else do
      require !(← ahead (atOp "..."))
      op ".."
  let stop ← do
    if dots.length = 2 && (← ahead (atRangeEnd structs)) then pure []
    else
      let stop : Expr ← g (.operand structs .range)
      pure stop.pieces
  let core := numberBefore start.core ++ dots ++ stop
  return .term { core, form := .range, endsEarly := start.endsEarly }

/-- A cast behind its operand. Nothing may be done with the value of a cast that is not in
parentheses. -/
def cast (g : Rules) (operand : Expr) : P Expr := do
  let type ← sequence [word "as", g.type false]
  let ts ← get
  require !(atDot ts || atOp "?" ts || atGroup .bracket ts || atGroup .paren ts)
  return operand.extend .cast type

/-- What an expression goes on with, for operators that bind no looser than `base`. A
range takes no further operator, and comparisons do not chain. -/
def continuation (g : Rules) (lhs : Expr) (structs : Bool) (base : Level) : P Expr := do
  let ts ← get
  if lhs.form = .range then return lhs
  match binaryOperator? ts with
  | some (sign, level) =>
    if level.rank < base.rank then return lhs
    require !(level = .compare && lhs.form = .operation .compare)
    let sign ← op sign
    let right : Expr ← g (.operand structs level)
    g (.continuation (lhs.extend level (sign ++ right.pieces)) structs base)
  | none =>
    if base.rank ≤ Level.assign.rank && atAssignment ts then
      let sign ← op "="
      let right : Expr ← g (.operand structs .assign)
      g (.continuation (lhs.extend .assign (sign ++ right.pieces)) structs base)
    else if base.rank ≤ Level.range.rank && atOp ".." ts then
      range g structs (lhs.leftOf .range true)
    else if base.rank ≤ Level.cast.rank && atWord "as" ts then
      g (.continuation (← cast g lhs) structs base)
    else return lhs

/-- An expression. -/
def expression (g : Rules) (structs : Bool) : P Expr := do
  g (.continuation (← g (.unary structs)) structs .none)

/-! ### Behind an atom -/

/-- Arguments of a call. -/
def callArguments (g : Rules) : P (List Piece) :=
  group .paren (commaList (g.expression true))

/-- The fields that a number with dots stands for, as in `a.0.1`, and whether it ends with
a dot. -/
def dottedFields (text : String) : Option (List Piece × Bool) := do
  let parts := text.splitOn "."
  let endsWithDot := parts.getLast? = some ""
  let numbers ← (if endsWithDot then parts.dropLast else parts).mapM fieldNumber?
  let fields := (numbers.map fun number => [Piece.token number]).intersperse [.token "."]
  return (fields.flatten, endsWithDot)

/-- A field, a method call or an `await`, behind the dot. -/
def selection (g : Rules) : P (List Piece) := do
  if ← ahead (atWord "await") then return ← word "await"
  let isNamed ← ahead atIdent
  let name ← member
  if isNamed && (← ahead (atOp "::")) then
    let arguments ← do
      require (← ahead fun ts => atOp "<" (ts.drop 2))
      angleArguments g true
    return name ++ arguments.1 ++ (← callArguments g)
  else if isNamed && (← ahead (atGroup .paren)) then
    return name ++ (← callArguments g)
  else return name

/-- A dot and what is selected. -/
def dotted (g : Rules) : P (List Piece) := do
  let dot ← op "."
  match ← get with
  | .leaf (.literal .float text) :: rest =>
    let some (fields, endsWithDot) := dottedFields text | failure
    set rest
    if endsWithDot then return dot ++ fields ++ dot ++ (← selection g)
    else return dot ++ fields
  | _ => return dot ++ (← selection g)

/-- What stands behind an operand. -/
inductive Trailer where
  | call
  | index
  /-- A field, a method call, an `await` or a question mark. -/
  | selection
  deriving DecidableEq

/-- One call, selection, index or question mark behind an operand. -/
def trailer (g : Rules) (isRange : Bool) : P (Option (Trailer × List Piece)) := do
  let ts ← get
  if atGroup .paren ts then return some (.call, ← callArguments g)
  else if atDot ts && !isRange then return some (.selection, ← dotted g)
  else if atGroup .bracket ts then
    return some (.index, ← group .bracket (g.expression true))
  else if atOp "?" ts && !isRange then return some (.selection, ← op "?")
  else return none

/-- An operand with what stands behind it; at most `n`. -/
def trailersUpTo (g : Rules) (operand : Expr) : Nat → P Expr
  | 0 => failure
  | n + 1 => do
    match ← trailer g (operand.form = .range) with
    | none => return operand
    | some (kind, more) =>
      let left := operand.leftOf .atom (kind ≠ .selection)
      trailersUpTo g (.term {
        core := numberWith left.core more
        form := if kind = .call then .application else .plain
        endsEarly := left.endsEarly }) n

/-- An atom with what stands behind it. -/
def trailers (g : Rules) (atom : Expr) : P Expr := do
  trailersUpTo g atom ((← get).length + 1)

/-! ### Atoms -/

/-- A field of a struct literal. -/
def fieldValue (g : Rules) : P (List Piece) := do
  let attributes ← outerAttributes g
  let isNamed ← ahead atIdent
  let name ← member
  if !isNamed || (← ahead (atOp ":")) then
    return attributes ++ name ++ (← sequence [op ":", g.expression true])
  else return attributes ++ name

/-- The fields of a struct literal; at most `n`. Behind `..` stands the value that the
other fields are taken from; the normal form has no `..` without a value. -/
def fieldValues (g : Rules) : Nat → P (List Piece)
  | 0 => failure
  | n + 1 => do
    if ← atEnd then return []
    if ← ahead (atOp "..") then
      let dots ← op ".."
      if ← atEnd then return dropped dots else return dots ++ (← g.expression true)
    else
      let field ← fieldValue g
      if ← atEnd then return field
      let comma ← op ","
      return field ++ comma ++ (← fieldValues g n)

/-- The inside of a struct literal. -/
def structLiteral (g : Rules) : P (List Piece) := do
  fieldValues g ((← get).length + 1)

/-- A path, a macro call or a struct literal. -/
def pathExpression (g : Rules) (structs : Bool) : P Expr := do
  let (p, isQualified) ← qualifiedPath g true
  let ts ← get
  if !isQualified && p.isPlain && atCall ts then
    let (call, d) ← callBehind
    return .of (p.pieces ++ call) (.call d)
  else if structs && atGroup .brace ts then
    return .plain (p.pieces ++ (← group .brace (structLiteral g)))
  else return .plain p.pieces

/-- Whether a path is ahead. -/
def atPath (ts : List Tree) : Bool :=
  atPlainName ts || atAnyOp ["::", "<"] ts ||
    (atWord "try" ts && atAnyOp ["!", "::"] (ts.drop 1))

/-- An array: its elements, or an element and a length. -/
def array (g : Rules) : P (List Piece) :=
  group .bracket do
    if ← atEnd then return []
    let first ← g.expression true
    let ts ← get
    if ts.isEmpty then return first
    else if atOp ";" ts then return first ++ (← sequence [op ";", g.expression true])
    else return first ++ (← sequence [op ",", commaList (g.expression true)])

/-- A tuple or an expression in parentheses. -/
def tuple (g : Rules) : P Expr := do
  let isUnit ← ahead fun
    | .group .paren [] :: _ => true
    | _ => false
  return .of (← callArguments g) (if isUnit then .unit else .plain)

/-- `let`, a pattern, and a value, which ends before `&&` and `||`. -/
def letting (g : Rules) (structs : Bool) : P Expr := do
  let head ← sequence [word "let", g.alternatives, op "="]
  let value : Expr ← g (.continuation (← g (.unary structs)) structs .compare)
  return .of (head ++ value.pieces) (.operation .letting)

/-- Whether a conditional, match, loop or block is ahead that is a statement without a
semicolon. -/
def atBlocklike (ts : List Tree) : Bool :=
  let next := ts.drop 1
  atAnyWord ["if", "while", "loop", "match"] ts || (atWord "for" ts && !atBinder ts) ||
    (atAnyWord ["try", "unsafe", "const"] ts && atGroup .brace next) ||
    atGroup .brace ts || (atLifetime ts && atOp ":" next)

/-- A conditional, match, loop or block. -/
def blocklike (g : Rules) : P Expr := do
  let ts ← get
  if atGroup .brace ts then attributedBlock g
  else if atWord "if" ts then conditional g
  else if atWord "match" ts then return .of (← matching g) .blocklike
  else if atLifetime ts then labeled g
  else if atWord "try" ts then
    return .of (← sequence [word "try", plainBlock g]) .blocklike
  else if atAnyWord ["unsafe", "const"] ts then
    return .of (← sequence [anyIdent, attributedBlockPieces g]) .blocklike
  else repetition g []

/-- Whether an `async` block is ahead. -/
def atAsyncBlock (ts : List Tree) : Bool :=
  let next := ts.drop 1
  atWord "async" ts &&
    (atGroup .brace next || (atWord "move" next && atGroup .brace (next.drop 1)))

/-- An expression that no operator belongs to. -/
def atom (g : Rules) (structs : Bool) : P Expr := do
  let ts ← get
  if atLiteral ts then return .plain (← literal)
  else if atAsyncBlock ts then
    return .plain (← sequence [word "async", word? "move", plainBlock g])
  else if atClosure ts then closure g structs
  else if atBuiltin ts then return .foreign (← builtin)
  else if atPath ts then pathExpression g structs
  else if atGroup .paren ts then tuple g
  else if atWord "break" ts then breaking g structs
  else if atWord "become" ts then
    return .foreign (← asWritten (sequence [word "become", g.expression true]))
  else if atAnyWord ["continue", "return", "yield"] ts then jump g
  else if atGroup .bracket ts then return .plain (← array g)
  else if atWord "let" ts then letting g structs
  else if atBlocklike ts then blocklike g
  else if atOp ".." ts then range g structs { core := [] }
  else return .plain (← word "_")

/-- An operand behind its reference sign, which may be for a raw reference. -/
def reference (g : Rules) (structs : Bool) : P (List Piece) := do
  let sign ← op "&"
  let kind ← do
    if ← ahead fun ts => atWord "raw" ts && atAnyWord ["mut", "const"] (ts.drop 1) then
      sequence [word "raw", anyIdent]
    else word? "mut"
  let operand : Expr ← g (.unary structs)
  return sign ++ kind ++ operand.pieces

/-- An operand with its unary operators. A range without start has no attributes. -/
def unary (g : Rules) (structs : Bool) : P Expr := do
  let attributes ← outerAttributes g
  let ts ← get
  if atOp "&" ts then return (Expr.plain (← reference g structs)).attributed attributes
  else if atAnyOp ["*", "!", "-"] ts then
    let sign ← do
      if atOp "*" ts then op "*" else if atOp "!" ts then op "!" else op "-"
    let operand : Expr ← g (.unary structs)
    return (Expr.plain (sign ++ operand.pieces)).attributed attributes
  else
    let operand ← trailers g (← atom g structs)
    require (attributes.isEmpty || operand.form ≠ .range)
    return operand.attributed attributes

/-- An expression that ends early behind a block, unless the block is selected from. -/
def boundary (g : Rules) : P Expr := do
  let attributes ← outerAttributes g
  if ← ahead atBlocklike then
    let body ← blocklike g
    if ← ahead fun ts => atDot ts || atOp "?" ts then
      let selected ← trailers g body
      g (.continuation (selected.attributed attributes) true .none)
    else return body.attributed attributes
  else
    let operand : Expr ← g (.unary true)
    if operand.form = .range then return operand.attributedFirst attributes
    else g (.continuation (operand.attributedFirst attributes) true .none)

end StateMachine.Rust.Grammar
