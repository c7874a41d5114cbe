import StateMachine.Rust.Grammar.Generics

/-!
# Paths and Bounds

A path is a sequence of names with `::` between them. A name may have arguments in angle
brackets; in expressions a `::` must stand before them. In bounds the last name may have
arguments in parentheses instead.

Arguments are written with the lifetimes first, whatever their order was.
-/

namespace StateMachine.Rust.Grammar

/-! ### Arguments in angle brackets -/

/-- A lifetime, a type or a value as an argument. -/
structure Argument where
  pieces : List Piece
  isLifetime : Bool := false

/-- Whether a lifetime is ahead that is no bound. -/
def atLifetimeArgument (ts : List Tree) : Bool :=
  atLifetime ts && !atOp "+" (ts.drop 1)

/-- Bounds of a named type up to a comma or the closing bracket. In normal form there is no
colon without bounds. -/
def constraint (g : Rules) (name : List Piece) : P (List Piece) := do
  let colon ← op ":"
  let bounds ← plusBounds (atAnyOp [",", ">"]) (g.bound true)
  return name ++ (if bounds.isEmpty then dropped colon else colon ++ bounds)

/-- An argument: a lifetime, a value, a type, or a named type or bound. -/
def argument (g : Rules) : P Argument := do
  let ts ← get
  if atLifetimeArgument ts then return { pieces := (← lifetime), isLifetime := true }
  else if atLiteral ts || atGroup .brace ts then return { pieces := (← constArgument g) }
  else
    let type : Ty ← g (.type true)
    let ts ← get
    match type.kind with
    | .name =>
      if atOp "=" ts then
        let sign ← op "="
        let ts ← get
        let value ← do
          if atLiteral ts || atGroup .brace ts then constArgument g else g.type true
        return { pieces := type.pieces ++ sign ++ value }
      else if atOp ":" ts then return { pieces := (← constraint g type.pieces) }
      else return { pieces := type.pieces }
    | _ => return { pieces := type.pieces }

/-- The arguments up to the closing bracket; at most `n`. -/
def argumentsUpTo (g : Rules) : Nat → P (List Argument)
  | 0 => failure
  | n + 1 => do
    if ← ahead (atOp ">") then return []
    let first ← argument g
    if ← ahead (atOp ">") then return [first]
    let _ ← op ","
    return first :: (← argumentsUpTo g n)

/-- Arguments in angle brackets, perhaps behind `::`, and whether there are none. In normal
form there are no empty brackets, and the `::` stands in expressions only. -/
def angleArguments (g : Rules) (inExpression : Bool) : P (List Piece × Bool) := do
  let colons ← op? "::"
  let _ ← op "<"
  let arguments ← argumentsUpTo g ((← get).length + 1)
  let _ ← op ">"
  let sorted := arguments.filter (·.isLifetime) ++ arguments.filter (!·.isLifetime)
  let brackets := angled (joinCommas (sorted.map Argument.pieces))
  if sorted.isEmpty then return (dropped (colons ++ brackets), true)
  else if inExpression then return (colons ++ brackets, false)
  else return (dropped colons ++ brackets, false)

/-! ### Paths -/

/-- The words that are names in a path, though they are keywords. -/
def pathWords : List String := ["super", "self", "crate", "try"]

/-- Whether arguments in angle brackets are ahead of a name. In expressions they need `::`
in front. -/
def atAngleArguments (inExpression : Bool) (ts : List Tree) : Bool :=
  (!inExpression && atOp "<" ts && !atOp "<=" ts && !atOp "<<=" ts) ||
    (atOp "::" ts && atOp "<" (ts.drop 2))

/-- A name of a path with its arguments. -/
def pathSegment (g : Rules) (inExpression : Bool) : P Path := do
  let ts ← get
  if atAnyWord pathWords ts then return { front := (← anyIdent) }
  let name ← if atWord "Self" ts then anyIdent else ident
  if ← ahead (atAngleArguments inExpression) then
    let (arguments, isEmpty) ← angleArguments g inExpression
    return { front := name, arguments, isPlain := false, isOpen := isEmpty }
  else return { front := name }

/-- The names of a path that follow, each behind `::`; at most `n`. -/
def pathRest (g : Rules) (inExpression : Bool) (p : Path) : Nat → P Path
  | 0 => failure
  | n + 1 => do
    if ← ahead (fun ts => atOp "::" ts && !atGroup .paren (ts.drop 2)) then
      let colons ← op "::"
      let next ← pathSegment g inExpression
      pathRest g inExpression {
        next with
        front := p.pieces ++ colons ++ next.front
        segments := p.segments + 1
        isPlain := p.isPlain && next.isPlain } n
    else return p

/-- The names of a path. -/
def pathNames (g : Rules) (inExpression : Bool) : P Path := do
  let first ← pathSegment g inExpression
  pathRest g inExpression first ((← get).length + 1)

/-- A path. -/
def path (g : Rules) (inExpression : Bool) : P Path := do
  let colons ← op? "::"
  let p ← pathNames g inExpression
  return { p with front := colons ++ p.front, leading := !colons.isEmpty }

/-- The trait behind `as`, if it is ahead. -/
def castTrait? (g : Rules) : P (List Piece) := do
  if ← ahead (atWord "as") then sequence [word "as", g.path false] else return []

/-- A path, perhaps one that begins with a type in angle brackets. The flag says whether it
does. -/
def qualifiedPath (g : Rules) (inExpression : Bool) : P (Path × Bool) := do
  if ← ahead (atOp "<") then
    let type ← sequence [op "<", g.type true, castTrait? g, op ">", op "::"]
    let p ← pathNames g inExpression
    return ({ p with front := type ++ p.front }, true)
  else return (← g (.path inExpression), false)

/-! ### Bounds -/

/-- The type behind `->`, if it is ahead. -/
def returnType? (g : Rules) (plus : Bool) : P (List Piece) := do
  if ← ahead (atOp "->") then sequence [op "->", g.type plus] else return []

/-- Types in parentheses and a return type. -/
def parenArguments (g : Rules) : P (List Piece) :=
  sequence [group .paren (commaList (g.type true)), returnType? g false]

/-- Whether arguments in parentheses are ahead, perhaps behind `::`. -/
def atParenArguments (ts : List Tree) : Bool :=
  atGroup .paren ts || (atOp "::" ts && atGroup .paren (ts.drop 2))

/-- The path of a trait, perhaps with arguments in parentheses. -/
def traitPath (g : Rules) : P (List Piece) := do
  let p : Path ← g (.path false)
  if p.isOpen && (← ahead atParenArguments) then
    let _ ← op? "::"
    return p.front ++ (← parenArguments g)
  else return p.pieces

/-- Whether a mark is ahead that makes a bound one on constant traits. -/
def atConstant (ts : List Tree) : Bool :=
  atGroup .bracket ts || atWord "const" ts

/-- Takes a mark that makes a bound one on constant traits. -/
def constantMark : P (List Piece) := do
  if ← ahead (atGroup .bracket) then group .bracket (word "const") else word "const"

/-- A trait as a bound, perhaps relaxed by `?`, which excludes `for`. The flag says whether
it is one on constant traits, which no rule covers. -/
def traitBound (g : Rules) (constants : Bool) : P (List Piece × Bool) := do
  let before ← binder? g
  let isConstant ← ahead atConstant
  require (!isConstant || constants)
  let mark ← if isConstant then constantMark else pure []
  let relaxed ← op? "?"
  require (relaxed.isEmpty || before.isEmpty)
  return (before ++ mark ++ relaxed ++ (← traitPath g), isConstant)

/-- The captured parameters behind `use`. -/
def preciseCapture : P (List Piece) :=
  sequence [word "use", op "<",
    separatedBy "," (atOp ">") (do
      if ← ahead atLifetime then lifetime
      else
        require (← ahead fun ts => atIdent ts || atWord "Self" ts)
        anyIdent),
    op ">"]

/-- A bound. With `captures`, captured parameters may be named; with `constants`, it may be
one on constant traits. -/
def bound (g : Rules) (captures constants : Bool) : P Bound := do
  let ts ← get
  if atLifetime ts then
    let inside ← lifetime
    return { pieces := inside, inside }
  else if atWord "use" ts then
    require captures
    let inside ← preciseCapture
    return { pieces := inside, inside }
  else
    let isParen := atGroup .paren ts
    let bound := traitBound g constants
    let ((inside, isForeign), trees) ←
      taken (if isParen then inGroup .paren bound else bound)
    let pieces := if isParen then [Piece.group .paren inside] else inside
    if isForeign then
      let written := [Piece.writtenOnly (Tree.pieces trees)]
      return { pieces := written, inside := written, isTrait := true }
    else return { pieces, inside, isTrait := true }

/-- Whether a further bound is ahead behind a plus sign. -/
def atBound (constants : Bool) (ts : List Tree) : Bool :=
  atAnyIdent ts || atAnyOp ["::", "?"] ts || atLifetime ts || atGroup .paren ts ||
    (constants && atConstant ts)

/-- Several bounds. -/
structure Bounds where
  first : Bound
  /-- The other bounds, each behind a plus sign. -/
  more : List Piece := []
  /-- Whether one of the bounds is a trait. -/
  hasTrait : Bool

/-- All pieces of bounds. -/
def Bounds.pieces (bs : Bounds) : List Piece := bs.first.pieces ++ bs.more

/-- Further bounds, each behind a plus sign, and whether one of them is a trait; at most
`n`. In normal form there is no plus sign at the end. -/
def moreBounds (g : Rules) (captures constants : Bool) : Nat → P (List Piece × Bool)
  | 0 => failure
  | n + 1 => do
    if ← ahead (atOp "+") then
      let sign ← op "+"
      if ← ahead (atBound constants) then
        let next : Bound ← g (.bound captures constants)
        let (more, hasTrait) ← moreBounds g captures constants n
        return (sign ++ next.pieces ++ more, next.isTrait || hasTrait)
      else return (dropped sign, false)
    else return ([], false)

/-- Bounds with plus signs between them, or a single one without `plus`. -/
def bounds (g : Rules) (plus captures constants : Bool) : P Bounds := do
  let first : Bound ← g (.bound captures constants)
  let (more, hasTrait) ←
    if plus then moreBounds g captures constants ((← get).length + 1)
    else pure ([], false)
  return { first, more, hasTrait := first.isTrait || hasTrait }

/-- Bounds of which one at least is a trait. -/
def traitBounds (g : Rules) (plus captures constants : Bool) : P Bounds := do
  let bs ← bounds g plus captures constants
  require bs.hasTrait
  return bs

end StateMachine.Rust.Grammar
