import StateMachine.Rust.Grammar.Import
import StateMachine.Rust.Grammar.Pattern

/-!
# Rust Signatures

What stands before the body of an item: who may see it, and, for a function, its marks,
name, parameters and result.
-/

namespace StateMachine.Rust.Grammar

/-! ### Visibility -/

/-- The path behind `in`. In normal form a single `crate`, `self` or `super` stands without
`in`. -/
def visibilityPath : P (List Piece) := do
  let keyword ← word "in"
  let path ← plainPath
  match path with
  | [.token name] =>
    return (if ["crate", "self", "super"].contains name then dropped keyword else keyword) ++
      path
  | _ => return keyword ++ path

/-- Who may see an item. Parentheses that say more begin a tuple unless they are read
whole. -/
def visibility? : P (List Piece) := do
  if ← ahead (atWord "pub") then
    let mark ← word "pub"
    match ← get with
    | .group .paren body :: _ =>
      if atWord "in" body then return mark ++ (← group .paren visibilityPath)
      else if atAnyWord ["crate", "self", "super"] body && body.length = 1 then
        return mark ++ (← group .paren anyIdent)
      else return mark
    | _ => return mark
  else return []

/-! ### Parameters -/

/-- `self`, perhaps marked, behind a reference, or with a type. -/
def receiver (g : Rules) : P (List Piece) := do
  let reference ← do
    if ← ahead (atOp "&") then sequence [op "&", lifetime?] else pure []
  let self_ ← sequence [word? "mut", word "self"]
  if reference.isEmpty && (← ahead (atOp ":")) then
    return self_ ++ (← sequence [op ":", g.type true])
  else return reference ++ self_

/-- A receiver, if one is ahead that can be read. -/
def receiver? (g : Rules) : P (Option (List Piece)) :=
  (some <$> receiver g) <|> pure none

/-- The kinds of parameters of functions. -/
inductive ParameterKind where
  | ordinary
  | self
  /-- Dots for further parameters. -/
  | variadic
  deriving DecidableEq

/-- A parameter behind its attributes. A type that stands alone gets the pattern `_`. -/
def functionInput (g : Rules) : P (List Piece × ParameterKind) := do
  if ← ahead (atOp "...") then return (← op "...", .variadic)
  match ← receiver? g with
  | some pieces => return (pieces, .self)
  | none =>
    if ← ahead fun ts => atIdent ts && atOp "<" (ts.drop 1) then
      return ([.token "_", .token ":"] ++ (← g.type true), .ordinary)
    let name ← sequence [g.pattern, op ":"]
    if ← ahead (atOp "...") then return (name ++ (← op "..."), .variadic)
    else return (name ++ (← g.type true), .ordinary)

/-- Parameters of a function; at most `n`. Only the first may be `self`, and none may stand
behind dots. -/
def functionInputs (g : Rules) (isFirst : Bool) : Nat → P (List Piece)
  | 0 => failure
  | n + 1 => do
    if ← atEnd then return []
    let attributes ← outerAttributes g
    let (input, kind) ← functionInput g
    require (isFirst || kind ≠ .self)
    if ← atEnd then return attributes ++ input
    let comma ← op ","
    if kind = .variadic then return attributes ++ input ++ comma
    else return attributes ++ input ++ comma ++ (← functionInputs g false n)

/-! ### Signatures -/

/-- The trees behind a word, if it is ahead. -/
def behindWord (word : String) (ts : List Tree) : List Tree :=
  if atWord word ts then ts.drop 1 else ts

/-- The trees behind `extern` and the name of a convention, if they are ahead. -/
def behindConvention (ts : List Tree) : List Tree :=
  if atWord "extern" ts then
    match ts.drop 1 with
    | .leaf (.literal .string _) :: rest => rest
    | rest => rest
  else ts

/-- Whether the signature of a function is ahead. With `safe`, that mark may stand in place
of `unsafe`. -/
def atSignature (safe : Bool) (ts : List Tree) : Bool :=
  let ts := behindWord "async" (behindWord "const" ts)
  let ts := if safe && atWord "safe" ts then ts.drop 1 else behindWord "unsafe" ts
  atWord "fn" (behindConvention ts)

/-- The signature of a function. -/
structure Signature where
  pieces : List Piece
  predicates : Where
  /-- Whether it is marked as safe, which no rule covers. -/
  isSafe : Bool

/-- A signature of a function. -/
def signature (g : Rules) (safe : Bool) : P Signature := do
  let marks ← sequence [word? "const", word? "async", word? "unsafe"]
  let isSafe := safe && (← ahead fun ts => atWord "safe" ts)
  let mark ← if isSafe then word "safe" else pure []
  let pieces ← sequence [convention?, word "fn", ident, parameters? g,
    group .paren (do functionInputs g true ((← get).length + 1)), returnType? g true]
  return { pieces := marks ++ mark ++ pieces, predicates := (← where? g), isSafe }

end StateMachine.Rust.Grammar
