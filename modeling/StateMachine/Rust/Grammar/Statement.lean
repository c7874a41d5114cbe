import StateMachine.Rust.Grammar.Expression
import StateMachine.Rust.Grammar.Item

/-!
# Rust Statements

A statement is a binding, an item, a macro call, or an expression. An expression needs a
semicolon behind it, unless it is the last or ends with its own block.
-/

namespace StateMachine.Rust.Grammar

/-- Whether pieces end with a brace. -/
def endsWithBrace (pieces : List Piece) : Bool :=
  (tokensOf false pieces).getLast? = some Delimiter.brace.closing

/-- `else` and a block behind a value, if they are ahead. A value that ends with a brace
has none. -/
def otherwise (g : Rules) (value : List Piece) : P (List Piece) := do
  if (← ahead (atWord "else")) && !endsWithBrace value then
    sequence [word "else", plainBlock g]
  else return []

/-- A binding. Behind its value, a block says what to do if the pattern does not match. -/
def binding (g : Rules) : P (List Piece) := do
  let head ← sequence [word "let", g.pattern]
  let type ← do
    if ← ahead (atOp ":") then sequence [op ":", g.type true] else pure []
  let value ← do
    if ← ahead (atOp "=") then
      let value ← sequence [op "=", g.expression true]
      pure (value ++ (← otherwise g value))
    else pure []
  return head ++ type ++ value ++ (← op ";")

/-- The trees behind the path without arguments that is ahead. -/
def behindPlainPath? (ts : List Tree) : Option (List Tree) :=
  (plainPath.run ts).map Prod.snd

/-- Whether a macro call in braces is ahead that nothing is selected from. -/
def atBracedCall (ts : List Tree) : Bool :=
  match behindPlainPath? ts with
  | none => false
  | some rest =>
    let next := rest.drop 1
    let behind := next.drop 1
    atOp "!" rest && atGroup .brace next && !(atDot behind || atOp "?" behind)

/-- Whether a macro call is ahead that defines a name. -/
def atNamingCall (ts : List Tree) : Bool :=
  match behindPlainPath? ts with
  | none => false
  | some rest => atOp "!" rest && (atIdent (rest.drop 1) || atWord "try" (rest.drop 1))

/-- Takes a semicolon if one is ahead, and says whether it did. -/
def semicolon? : P Bool := do
  return !(← op? ";").isEmpty

/-- A macro call in braces. -/
def bracedCall (attributes : List Piece) : P Stmt := do
  let path ← plainPath
  let (call, _) ← callBehind
  return .call (attributes ++ path ++ call) (← semicolon?)

/-- Puts a macro call in parentheses if it is in braces and the expression goes on behind
it, which can be only where its path has a `try`. An operator leaves the attributes with the
call. Says whether it does. -/
def encloseCall (g : Rules) (attributes : List Tree) : P Bool := do
  match (taken (g (.path true))).run (← get) with
  | some ((p, path), mark :: .group .brace body :: rest) =>
    let call := path ++ [mark, .group .brace body]
    if !p.isPlain || !atOp "!" [mark] then return false
    else if atGroup .paren rest || atGroup .bracket rest then
      set (.group .paren call :: rest)
      return false
    else if levelAhead rest ≠ .none then
      set (.group .paren (attributes ++ call) :: rest)
      return true
    else return false
  | _ => return false

/-- An expression as a statement, behind its attributes, which are given as trees, too. A
macro call with a semicolon or in braces is no expression. -/
def valueStatement (g : Rules) (attributes : List Piece) (trees : List Tree) : P Stmt := do
  let isInside ← encloseCall g trees
  let attributes := if isInside then [] else attributes
  let value : Expr ← g .boundary
  let e := value.attributedFirst attributes
  let hasSemicolon ← semicolon?
  match value.form with
  | .call d =>
    if hasSemicolon || d = .brace then return .call e.pieces hasSemicolon
    else
      require (← atEnd)
      return .value e false
  | form =>
    require (hasSemicolon || form.isBlocklike || (← atEnd))
    return .value e hasSemicolon

/-- A statement. -/
def statement (g : Rules) : P Stmt := do
  if ← ahead (atOp ";") then
    let _ ← op ";"
    return .empty
  let (attributes, trees) ← taken (outerAttributes g)
  let ts ← get
  if atNamingCall ts then return .other (attributes ++ (← g .item))
  else if atBracedCall ts then bracedCall attributes
  else if atWord "let" ts then return .other (attributes ++ (← binding g))
  else if atItem ts then return .other (attributes ++ (← g .item))
  else valueStatement g attributes trees

/-- At most `n` statements. -/
def statementsUpTo (g : Rules) : Nat → P (List Stmt)
  | 0 => failure
  | n + 1 => do
    if ← atEnd then return []
    let first ← statement g
    return first :: (← statementsUpTo g n)

/-- The statements of a block. -/
def statements (g : Rules) : P (List Stmt) := do
  statementsUpTo g ((← get).length + 1)

end StateMachine.Rust.Grammar
