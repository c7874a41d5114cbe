import StateMachine.Rust.Grammar.Path

/-!
# Rust Types

Where bounds may be added to a type with plus signs depends on what stands around it: not
behind `&`, `*` or `->`, where `&A + B` would be ambiguous. The rule `Rule.type` says so
with its flag.

Bounds are a type on their own, the type of all that meet them; in normal form `dyn` stands
before them.
-/

namespace StateMachine.Rust.Grammar

/-! ### Bounds as types -/

/-- Bounds as a type. In normal form `dyn` stands before them; where no bounds may be added
there can be only one then. -/
def objectType (bs : Bounds) (plus : Bool) : Ty :=
  let isSole := bs.more.isEmpty
  let written := bs.pieces
  { pieces :=
      if plus || isSole then added [.token "dyn"] ++ written else [.writtenOnly written]
    kind := if isSole then .bound bs.first.inside else .plain }

/-- Bounds as a type, behind the first of them. -/
def objectBehind (g : Rules) (first : Bound) (plus : Bool) : P Ty := do
  let more ← manyWhile (atOp "+") (sequence [op "+", g.bound false])
  return objectType { first, more, hasTrait := true } plus

/-- `dyn` and bounds. A star behind it is covered by no rule. -/
def dynType (g : Rules) (plus : Bool) : P (List Piece) :=
  covered do
    let keyword ← word "dyn"
    let star ← op? "*"
    let bs ← traitBounds g plus false false
    return (keyword ++ star ++ bs.pieces, !star.isEmpty)

/-! ### Parentheses -/

/-- Further types of a tuple. -/
def moreTypes (g : Rules) : P (List Piece) :=
  sequence [op ",", commaList (g.type true)]

/-- The inside of parentheses: a tuple of types, or a single type, which is given too. -/
def parenTypes (g : Rules) : P (List Piece × Option Ty) := do
  if ← atEnd then return ([], none)
  let first : Ty ← g (.type true)
  if ← ahead (atOp ",") then return (first.pieces ++ (← moreTypes g), none)
  else return (first.pieces, some first)

/-- A type in parentheses as the first of several bounds, if it can be one. -/
def firstBound? (t : Ty) : Option Bound :=
  let bound (inside : List Piece) : Bound :=
    { pieces := [.group .paren inside], inside, isTrait := true }
  match t.kind with
  | .name | .path => some (bound t.pieces)
  | .bound inside => some (bound inside)
  | .plain => none

/-- A type that begins with a parenthesis: a tuple, a type in parentheses, or bounds. -/
def parenType (g : Rules) (plus : Bool) : P Ty := do
  match ← get with
  | .group .paren body :: _ =>
    if atLifetime body then
      let inside ← inGroup .paren do return objectType (← traitBounds g true false false) true
      return { pieces := [.group .paren inside.pieces] }
    else if atOp "?" body then
      let (inside, _) ← inGroup .paren (traitBound g false)
      objectBehind g { pieces := [.group .paren inside], inside, isTrait := true } plus
    else
      let (inside, single?) ← inGroup .paren (parenTypes g)
      let parens : Ty := { pieces := [.group .paren inside] }
      match single?.bind firstBound? with
      | none => return parens
      | some first =>
        if plus && (← ahead (atOp "+")) then objectBehind g first plus else return parens
  | _ => failure

/-! ### Functions -/

/-- `extern`, perhaps with the name of a convention. -/
def convention : P (List Piece) :=
  sequence [word "extern", stringLiteral?]

/-- `extern`, if it is ahead. -/
def convention? : P (List Piece) := do
  if ← ahead (atWord "extern") then convention else return []

/-- Whether a name or `_` is ahead with a colon behind it. -/
def atNamed (ts : List Tree) : Bool :=
  (atIdent ts || atWord "_" ts) && atOp ":" (ts.drop 1) && !atOp "::" (ts.drop 1)

/-- Whether dots are ahead that stand for further parameters, perhaps behind a name. -/
def atVariadic (ts : List Tree) : Bool :=
  atOp "..." ts || (atNamed ts && atOp "..." (ts.drop 2))

/-- Whether `mut self` is ahead. -/
def atMutSelf (ts : List Tree) : Bool :=
  atWord "mut" ts && atWord "self" (ts.drop 1)

/-- Whether `self` is ahead with a colon behind it. -/
def atNamedSelf (ts : List Tree) : Bool :=
  atWord "self" ts && atOp ":" (ts.drop 1) && !atOp "::" (ts.drop 1)

/-- A parameter of a function type, behind its attributes. The first may be `self`; with
`mut` before it, no rule covers it. -/
def functionParameter (g : Rules) (isFirst : Bool) : P (List Piece) :=
  covered do
    let isMut := isFirst && (← ahead atMutSelf)
    let mark ← if isMut then word "mut" else pure []
    let ts ← get
    let isSelf := isFirst && atNamedSelf ts
    let name ← if atNamed ts || isSelf then sequence [anyIdent, op ":"] else pure []
    if isFirst && !isSelf && (← ahead atMutSelf) then
      return (mark ++ name ++ (← sequence [word "mut", word "self"]), true)
    else if isMut && name.isEmpty then return (mark ++ (← word "self"), true)
    else return (mark ++ name ++ (← g.type true), isMut)

/-- The dots for further parameters, with their name and a comma. -/
def variadic : P (List Piece) := do
  let name ← if ← ahead (atOp "...") then pure [] else sequence [anyIdent, op ":"]
  return name ++ (← sequence [op "...", op? ","])

/-- Parameters of a function type; at most `n`. -/
def functionParameters (g : Rules) (isFirst : Bool) : Nat → P (List Piece)
  | 0 => failure
  | n + 1 => do
    if ← atEnd then return []
    let attributes ← outerAttributes g
    if ← ahead atVariadic then return attributes ++ (← variadic)
    let parameter ← functionParameter g isFirst
    if ← atEnd then return attributes ++ parameter
    let comma ← op ","
    return attributes ++ parameter ++ comma ++ (← functionParameters g false n)

/-- A function type, without the lifetimes in front. -/
def functionType (g : Rules) : P (List Piece) :=
  sequence [word? "unsafe", convention?, word "fn",
    group .paren (do functionParameters g true ((← get).length + 1)), returnType? g false]

/-! ### Paths as types -/

/-- A type that begins with a path: the path, a macro call, or bounds. The call loses the
lifetimes in front. -/
def namedType (g : Rules) (lifetimes : List Piece) (plus : Bool) : P Ty := do
  let (p, isQualified) ← qualifiedPath g false
  if isQualified then return { pieces := p.pieces }
  let ts ← get
  if p.isPlain && atCall ts then return { pieces := p.pieces ++ (← callBehind).1 }
  else if !lifetimes.isEmpty || (plus && atOp "+" ts) then
    let inside := lifetimes ++ p.pieces
    let (more, _) ←
      if plus then moreBounds g false false (ts.length + 1) else pure ([], false)
    return objectType
      { first := { pieces := inside, inside, isTrait := true }, more, hasTrait := true } plus
  else if p.segments = 1 && !p.leading then return { pieces := p.pieces, kind := .name }
  else return { pieces := p.pieces, kind := .path }

/-! ### Types -/

/-- Whether a built-in form is ahead, which no rule covers. -/
def atBuiltin (ts : List Tree) : Bool :=
  atWord "builtin" ts && atOp "#" (ts.drop 1)

/-- A built-in form. -/
def builtin : P (List Piece) :=
  asWritten (sequence [word "builtin", op "#", ident, group .paren (do
    set ([] : List Tree)
    return [])])

/-- Whether a path is ahead that a type may begin with. -/
def atTypePath (ts : List Tree) : Bool :=
  atPlainName ts || atAnyOp ["::", "<"] ts

/-- Whether a function type is ahead. -/
def atFunctionType (ts : List Tree) : Bool :=
  atAnyWord ["fn", "unsafe", "extern"] ts

/-- A slice or an array. -/
def sliceType (g : Rules) : P (List Piece) :=
  group .bracket do
    let type ← g.type true
    if ← atEnd then return type
    else return type ++ (← sequence [op ";", g.expression true])

/-- `const` or `mut`. -/
def constOrMut : P (List Piece) := do
  if ← ahead (atWord "const") then word "const" else word "mut"

/-- A type that begins with no path, parenthesis or function. -/
def otherType (g : Rules) (plus : Bool) : P (List Piece) := do
  let ts ← get
  if atWord "dyn" ts then dynType g plus
  else if atWord "impl" ts then
    let keyword ← word "impl"
    return keyword ++ (← traitBounds g plus true true).pieces
  else if atGroup .bracket ts then sliceType g
  else if atOp "*" ts then sequence [op "*", constOrMut, g.type false]
  else if atOp "&" ts then sequence [op "&", lifetime?, word? "mut", g.type false]
  else if atOp "!" ts then op "!"
  else if atWord "_" ts then word "_"
  else do
    require (atLifetime ts)
    return (objectType (← traitBounds g true false false) plus).pieces

/-- A type without lifetimes in front. -/
def typeBehind (g : Rules) (lifetimes : List Piece) (plus : Bool) : P Ty := do
  let ts ← get
  if atFunctionType ts then return { pieces := lifetimes ++ (← functionType g) }
  else if atTypePath ts then namedType g lifetimes plus
  else if atGroup .paren ts then parenType g plus
  else return { pieces := (← otherType g plus) }

/-- A type. -/
def type (g : Rules) (plus : Bool) : P Ty := do
  let (lifetimes, front) ← taken (binder? g)
  let ts ← get
  require (lifetimes.isEmpty || atFunctionType ts || atPlainName ts)
  if atBuiltin ts then
    return { pieces := [.writtenOnly (Tree.pieces front ++ (← builtin))] }
  else typeBehind g lifetimes plus

end StateMachine.Rust.Grammar
