import StateMachine.Rust.Grammar.Rule

/-!
# Generic Parameters

Parameters in angle brackets, and the predicates behind `where`. Parameters of an item are
written with the lifetimes first, whatever their order was; those behind `for` keep their
order. What is empty is not written at all.
-/

namespace StateMachine.Rust.Grammar

/-! ### Parameters -/

/-- A value as an argument: a literal, a name or a block. -/
def constArgument (g : Rules) : P (List Piece) := do
  let ts ← get
  if atLiteral ts then literal
  else if atIdent ts then ident
  else attributedBlockPieces g

/-- Bounds with plus signs between them up to where `stop` holds. In normal form there is no
plus sign at the end. -/
def plusBounds (stop : List Tree → Bool) (item : P (List Piece)) : P (List Piece) := do
  return dropLast "+" (← separatedBy "+" stop item)

/-- Bounds behind a colon. Without bounds there is no colon. -/
def colonBounds? (stop : List Tree → Bool) (item : P (List Piece)) : P (List Piece) := do
  if ← ahead (atOp ":") then
    let colon ← op ":"
    let bounds ← plusBounds stop item
    return if bounds.isEmpty then [] else colon ++ bounds
  else return []

/-- A default behind an equals sign, if one is ahead. -/
def default? (value : P (List Piece)) : P (List Piece) := do
  if ← ahead (atOp "=") then sequence [op "=", value] else return []

/-- A generic parameter. -/
structure Parameter where
  pieces : List Piece
  isLifetime : Bool := false

/-- Where the bounds of a parameter end. -/
def atParameterEnd (ts : List Tree) : Bool :=
  ts.isEmpty || atAnyOp [",", ">", "="] ts

/-- A generic parameter: a lifetime, a constant or a type. -/
def parameter (g : Rules) : P Parameter := do
  let attributes ← outerAttributes g
  let ts ← get
  if atLifetime ts then
    let pieces ← sequence [lifetime, colonBounds? atParameterEnd lifetime]
    return { pieces := attributes ++ pieces, isLifetime := true }
  else if atWord "const" ts then
    let pieces ← sequence [word "const", ident, op ":", g.type true,
      default? (constArgument g)]
    return { pieces := attributes ++ pieces }
  else
    let pieces ← sequence [ident, colonBounds? atParameterEnd (g.bound true),
      default? (g.type true)]
    return { pieces := attributes ++ pieces }

/-- Parameters with commas between them; at most `n`. -/
def parametersUpTo (item : P Parameter) : Nat → P (List Parameter)
  | 0 => failure
  | n + 1 => do
    if ← ahead (atOp ">") then return []
    let first ← item
    if ← ahead (atOp ">") then return [first]
    let _ ← op ","
    return first :: (← parametersUpTo item n)

/-- Parameters in angle brackets. -/
def parametersIn (item : P Parameter) : P (List Parameter) := do
  let _ ← op "<"
  let parameters ← parametersUpTo item ((← get).length + 1)
  let _ ← op ">"
  return parameters

/-- Pieces in angle brackets. -/
def angled (inside : List Piece) : List Piece :=
  [.token "<"] ++ inside ++ [.token ">"]

/-- A parameter of an item, which may be nameless. -/
def itemParameter (g : Rules) : P Parameter := do
  let (attributes, trees) ← taken (outerAttributes g)
  if ← ahead (atWord "_") then return { pieces := attributes ++ (← word "_") }
  else
    modify (trees ++ ·)
    parameter g

/-- Parameters of an item, if they are ahead. -/
def parameters? (g : Rules) : P (List Piece) := do
  if ← ahead (atOp "<") then
    let parameters ← parametersIn (itemParameter g)
    let sorted := parameters.filter (·.isLifetime) ++ parameters.filter (!·.isLifetime)
    return if sorted.isEmpty then [] else angled (joinCommas (sorted.map Parameter.pieces))
  else return []

/-- `for` and parameters. -/
def binder (g : Rules) : P (List Piece) := do
  let keyword ← word "for"
  let parameters ← parametersIn (parameter g)
  return keyword ++ angled (joinCommas (parameters.map Parameter.pieces))

/-- `for` and parameters, if they are ahead. -/
def binder? (g : Rules) : P (List Piece) := do
  if ← ahead (atWord "for") then binder g else return []

/-- Whether parameters in angle brackets are ahead, and no type in angle brackets. -/
def atParameters (ts : List Tree) : Bool :=
  let first := ts.drop 1
  let second := ts.drop 2
  atOp "<" ts &&
    (atAnyOp [">", "#"] first || atWord "const" first ||
      ((atLifetime first || atIdent first) &&
        (atAnyOp [">", ",", "="] second || (atOp ":" second && !atOp "::" second))))

/-! ### Predicates -/

/-- Where predicates and their bounds end. -/
def atWhereEnd (ts : List Tree) : Bool :=
  ts.isEmpty || atGroup .brace ts || atAnyOp [";", "="] ts ||
    (atOp ":" ts && !atOp "::" ts)

/-- A predicate behind `where`. -/
def predicate (g : Rules) : P (List Piece) := do
  let stop := fun ts => atWhereEnd ts || atOp "," ts
  if ← ahead fun ts => atLifetime ts && atOp ":" (ts.drop 1) then
    sequence [lifetime, op ":", plusBounds stop lifetime]
  else
    sequence [binder? g, g.type true, op ":", plusBounds stop (g.bound true)]

/-- What stands behind `where`: predicates with commas between them. -/
structure Where where
  predicates : List Piece := []
  /-- Whether a comma stands at the end. -/
  hasComma : Bool := false

/-- `where` and predicates, if they are ahead. -/
def where? (g : Rules) : P Where := do
  if ← ahead (atWord "where") then
    let _ ← word "where"
    require !(← ahead atParameters)
    let predicates ← separatedBy "," atWhereEnd (predicate g)
    match predicates.getLast? with
    | some p =>
      if p.isToken "," then return { predicates := predicates.dropLast, hasComma := true }
      else return { predicates }
    | none => return {}
  else return {}

/-- `where` and its predicates. In normal form there is a comma at the end if `closed`
says so. -/
def Where.pieces (w : Where) (closed : Bool) : List Piece :=
  let comma : List Piece := [.token ","]
  if w.predicates.isEmpty then []
  else
    [.token "where"] ++ w.predicates ++
      match w.hasComma, closed with
      | true, true => comma
      | true, false => dropped comma
      | false, true => added comma
      | false, false => []

/-- `where` and its predicates before a body. -/
def Where.beforeBody (w : Where) : List Piece := w.pieces true

/-- `where` and its predicates where no body follows. -/
def Where.inLine (w : Where) : List Piece := w.pieces false

end StateMachine.Rust.Grammar
