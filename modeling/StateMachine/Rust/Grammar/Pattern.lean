import StateMachine.Rust.Grammar.Type

/-!
# Rust Patterns

`pattern` reads a single pattern, `alternatives` patterns with bars between them.
-/

namespace StateMachine.Rust.Grammar

/-! ### Ranges -/

/-- Whether the end of a range pattern is missing. -/
def atRangePatternEnd (ts : List Tree) : Bool :=
  ts.isEmpty || atAnyOp ["|", "=", ",", ";"] ts || (atOp ":" ts && !atOp "::" ts) ||
    atWord "if" ts

/-- `const` and a block. -/
def constBlock (g : Rules) : P (List Piece) :=
  sequence [word "const", attributedBlockPieces g]

/-- An end of a range pattern: a literal, a path or a constant block. -/
def patternBound (g : Rules) : P (List Piece) := do
  let ts ← get
  if atLiteral ts then literal
  else if atWord "const" ts then constBlock g
  else do
    require (atPlainName ts || atAnyOp ["::", "<"] ts)
    return (← qualifiedPath g true).1.pieces

/-- The dots of a range pattern; `...` is another spelling of `..=`. -/
def patternDots : P (List Piece) := do
  let ts ← get
  if atOp "..=" ts then op "..="
  else if atOp "..." ts then do
    let _ ← op "..."
    return [.token ".", .token ".", .token "="]
  else op ".."

/-- A range pattern behind its start. Only `..` may lack an end. -/
def rangePattern (g : Rules) (start : List Piece) : P Pat := do
  let dots ← patternDots
  if ← ahead atRangePatternEnd then
    require (dots.length = 2)
    return { pieces := start ++ dots, kind := .openRange }
  else return { pieces := start ++ dots ++ (← patternBound g) }

/-- A range pattern without a start, or the pattern `..`. -/
def dotsPattern (g : Rules) : P Pat := do
  require !(← ahead (atOp "..."))
  let dots ← if ← ahead (atOp "..=") then op "..=" else op ".."
  if ← ahead atRangePatternEnd then
    require (dots.length = 2)
    return { pieces := dots }
  else return { pieces := dots ++ (← patternBound g), kind := .openRange }

/-! ### Fields and elements -/

/-- A number written in the given base. -/
def number? (base : Nat) (digits : List Char) : Option Nat :=
  if digits.isEmpty then none
  else
    digits.foldlM (fun value c =>
      let digit :=
        if c.isDigit then c.toNat - '0'.toNat
        else if c.isAlpha then c.toLower.toNat - 'a'.toNat + 10
        else base
      if digit < base then some (base * value + digit) else none) 0

/-- The number of a field of a tuple, as an integer literal without suffix gives it; it has
32 bits. -/
def fieldNumber? (text : String) : Option String := do
  let value ←
    match text.toList.filter (· != '_') with
    | '0' :: 'x' :: digits => number? 16 digits
    | '0' :: 'o' :: digits => number? 8 digits
    | '0' :: 'b' :: digits => number? 2 digits
    | digits => number? 10 digits
  if value < 0x100000000 then some (toString value) else none

/-- A field: its name or its number. -/
def member : P (List Piece) := do
  match ← get with
  | .leaf (.literal .integer text) :: rest =>
    let some number := fieldNumber? text | failure
    set rest
    return [.token number]
  | _ => ident

/-- A field of a struct pattern, behind its attributes. No rule covers a boxed one. -/
def fieldPattern (g : Rules) : P (List Piece) :=
  covered do
    let box ← word? "box"
    let marks ← sequence [word? "ref", word? "mut"]
    if box.isEmpty && marks.isEmpty then
      let isNamed ← ahead atIdent
      let name ← member
      if !isNamed || (← ahead (atOp ":")) then
        return (name ++ (← sequence [op ":", g.alternatives]), false)
      else return (name, false)
    else return (box ++ marks ++ (← ident), !box.isEmpty)

/-- The fields of a struct pattern; at most `n`. Behind `..` there are none. -/
def fieldPatterns (g : Rules) : Nat → P (List Piece)
  | 0 => failure
  | n + 1 => do
    if ← atEnd then return []
    let attributes ← outerAttributes g
    if ← ahead (atOp "..") then return attributes ++ (← op "..")
    else
      let field ← fieldPattern g
      if ← atEnd then return attributes ++ field
      let comma ← op ","
      return attributes ++ field ++ comma ++ (← fieldPatterns g n)

/-- The inside of a struct pattern. -/
def structPattern (g : Rules) : P (List Piece) := do
  fieldPatterns g ((← get).length + 1)

/-- An element of a slice pattern. A range that lacks an end is none. -/
def elementPattern (g : Rules) : P (List Piece) := do
  let element : Pat ← g .alternatives
  require (element.kind ≠ .openRange)
  return element.pieces

/-! ### Patterns -/

/-- A pattern that begins with a path. -/
def pathPattern (g : Rules) : P Pat := do
  let (p, isQualified) ← qualifiedPath g true
  let ts ← get
  if !isQualified && p.isPlain && atCall ts then
    return { pieces := p.pieces ++ (← callBehind).1 }
  else if atGroup .brace ts then
    return { pieces := p.pieces ++ (← group .brace (structPattern g)) }
  else if atGroup .paren ts then
    return { pieces := p.pieces ++ (← group .paren (commaList g.alternatives)) }
  else if atOp ".." ts then rangePattern g p.pieces
  else return { pieces := p.pieces }

/-- Whether a pattern is ahead that begins with a path. -/
def atPathPattern (ts : List Tree) : Bool :=
  let next := ts.drop 1
  (atIdent ts &&
      (atAnyOp ["::", "!", ".."] next || atGroup .brace next || atGroup .paren next)) ||
    (atWord "self" ts && atOp "::" next) || atAnyOp ["::", "<"] ts ||
    atAnyWord ["Self", "super", "crate"] ts

/-- A literal or a constant block, or a range that begins with one. -/
def literalPattern (g : Rules) : P Pat := do
  let start ← patternBound g
  if ← ahead (atOp "..") then rangePattern g start else return { pieces := start }

/-- A name to bind, perhaps with a pattern behind `@`. -/
def bindingPattern (g : Rules) : P (List Piece) := do
  let marks ← sequence [word? "ref", word? "mut"]
  let name ← if ← ahead (atWord "self") then anyIdent else ident
  if ← ahead (atOp "@") then
    return marks ++ name ++ (← sequence [op "@", g.pattern])
  else return marks ++ name

/-- A boxed pattern, which no rule covers. -/
def boxPattern (g : Rules) : P Pat := do
  let written ← asWritten (sequence [word "box", g.pattern])
  return { pieces := [.writtenOnly written], kind := .foreign }

/-- A single pattern. -/
def pattern (g : Rules) : P Pat := do
  let ts ← get
  if atPathPattern ts then pathPattern g
  else if atWord "_" ts then return { pieces := (← word "_") }
  else if atWord "box" ts then boxPattern g
  else if atOp "-" ts || atLiteral ts || atWord "const" ts then literalPattern g
  else if atOp "&" ts then
    return { pieces := (← sequence [op "&", word? "mut", g.pattern]) }
  else if atGroup .paren ts then
    return { pieces := (← group .paren (commaList g.alternatives)) }
  else if atGroup .bracket ts then
    return { pieces := (← group .bracket (commaList (elementPattern g))) }
  else if atOp ".." ts then dotsPattern g
  else return { pieces := (← bindingPattern g) }

/-- Whether a bar between patterns is ahead. -/
def atBar (ts : List Tree) : Bool :=
  atOp "|" ts && !atOp "||" ts && !atOp "|=" ts

/-- Patterns with bars between them, and perhaps one in front, which is not part of the
normal form. -/
def alternatives (g : Rules) : P Pat := do
  let bar ← op? "|"
  let first : Pat ← g .pattern
  let more ← manyWhile atBar (sequence [op "|", g.pattern])
  if bar.isEmpty && more.isEmpty then return first
  else return { pieces := dropped bar ++ first.pieces ++ more }

end StateMachine.Rust.Grammar
