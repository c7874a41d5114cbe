import StateMachine.Rust.Grammar.Signature

/-!
# Members

What stands in a trait, in an implementation, and in a block of foreign functions:
functions, constants, types and macro calls. The three differ in what may be missing, and in
what is read although no rule covers it.
-/

namespace StateMachine.Rust.Grammar

/-! ### Functions -/

/-- A function with its body. -/
def definedFunction (g : Rules) (s : Signature) : P (List Piece) := do
  return s.pieces ++ s.predicates.beforeBody ++ (← bodyBlock g)

/-- A function without body. -/
def declaredFunction (s : Signature) : P (List Piece) := do
  return s.pieces ++ s.predicates.inLine ++ (← op ";")

/-! ### Types -/

/-- Where `where` may stand in the declaration of a type. -/
inductive WherePlace where
  | beforeEquals
  | afterEquals
  | both
  deriving DecidableEq

/-- The declaration of a type. -/
structure TypeDeclaration where
  head : List Piece
  /-- The bounds behind a colon, with the colon. -/
  bounds : Option (List Piece)
  /-- The type behind the equals sign, with the sign. -/
  value : Option (List Piece)
  predicates : Where

/-- Bounds of a type behind a colon, if one is ahead. -/
def typeBounds? (g : Rules) : P (Option (List Piece)) := do
  if ← ahead (atOp ":") then
    let colon ← op ":"
    let bounds ← plusBounds (fun ts => atWord "where" ts || atAnyOp ["=", ";"] ts)
      (g.bound true)
    return some (if bounds.isEmpty then [] else colon ++ bounds)
  else return none

/-- `where` and predicates if `allowed` holds and they are ahead. -/
def whereIf (g : Rules) (allowed : Bool) : P Where := do
  if allowed then where? g else return {}

/-- The declaration of a type, with the semicolon behind it. -/
def typeDeclaration (g : Rules) (place : WherePlace) : P TypeDeclaration := do
  let head ← sequence [word "type", ident, parameters? g]
  let bounds ← typeBounds? g
  let hasWhere ← ahead (atWord "where")
  let before ← whereIf g (place ≠ .afterEquals)
  let value ← do
    if ← ahead (atOp "=") then some <$> sequence [op "=", g.type true] else pure none
  let isOpen := place = .afterEquals || (place = .both && !hasWhere)
  let behind ← whereIf g isOpen
  let _ ← op ";"
  return { head, bounds, value, predicates := if isOpen then behind else before }

/-! ### Constants -/

/-- A name, or `_`, and generic parameters, a type, perhaps a value, and predicates. The
flag says whether there are parameters or predicates, and whether there is a value. -/
def constantBehind (g : Rules) : P (List Piece × Bool × Bool) := do
  let name ← newName
  let hasParameters ← ahead (atOp "<")
  let head ← sequence [parameters? g, op ":", g.type true]
  let value ← default? (g.expression true)
  let hasWhere ← ahead (atWord "where")
  let predicates ← where? g
  let pieces := name ++ head ++ value ++ predicates.inLine
  return (pieces ++ (← op ";"), hasParameters || hasWhere, !value.isEmpty)

/-! ### Macro calls -/

/-- A macro call as an item or member; it needs a semicolon unless it has braces. -/
def memberCall : P (List Piece) := do
  let path ← plainPath
  let (call, d) ← callBehind
  if d = .brace then return path ++ call else return path ++ call ++ (← op ";")

/-- Whether the path of a macro call is ahead. -/
def atMemberCall (ts : List Tree) : Bool :=
  atIdent ts || atAnyWord ["self", "super", "crate"] ts || atOp "::" ts

/-! ### Members of traits -/

/-- A constant of a trait. -/
def traitConstant (g : Rules) : P (List Piece × Bool) := do
  let keyword ← word "const"
  let (pieces, isGeneric, _) ← constantBehind g
  return (keyword ++ pieces, isGeneric)

/-- A type of a trait. -/
def traitType (g : Rules) : P (List Piece) := do
  let t ← typeDeclaration g .afterEquals
  return t.head ++ t.bounds.getD [] ++ t.value.getD [] ++ t.predicates.inLine ++ semicolon

/-- A function of a trait, perhaps with a body. -/
def traitFunction (g : Rules) : P (List Piece) := do
  let s ← signature g false
  if ← ahead (atGroup .brace) then definedFunction g s else declaredFunction s

/-- A member of a trait, behind its attributes. One that is marked is covered by no rule. -/
def traitMember (g : Rules) : P (List Piece) :=
  covered do
    let mark ← sequence [visibility?, word? "default"]
    let isMarked := !mark.isEmpty
    let ts ← get
    let (pieces, isForeign) ← do
      if atSignature false ts then pure (← traitFunction g, false)
      else if atWord "const" ts then traitConstant g
      else if atWord "type" ts then pure (← traitType g, false)
      else
        require (!isMarked && atMemberCall ts)
        pure (← memberCall, false)
    return (mark ++ pieces, isForeign || isMarked)

/-! ### Members of implementations -/

/-- A function of an implementation. Without body it is covered by no rule. -/
def implFunction (g : Rules) : P (List Piece × Bool) := do
  let s ← signature g false
  if ← ahead (atOp ";") then return (← declaredFunction s, true)
  else return (← definedFunction g s, false)

/-- A type of an implementation. With bounds or without value it is covered by no rule. -/
def implType (g : Rules) : P (List Piece × Bool) := do
  let t ← typeDeclaration g .afterEquals
  let pieces := t.head ++ t.bounds.getD [] ++ t.value.getD [] ++ t.predicates.inLine
  return (pieces ++ semicolon, t.bounds.isSome || t.value.isNone)

/-- A constant of an implementation. -/
def implConstant (g : Rules) : P (List Piece × Bool) := do
  let keyword ← word "const"
  let (pieces, isGeneric, hasValue) ← constantBehind g
  return (keyword ++ pieces, isGeneric || !hasValue)

/-- Whether `default` is ahead as a mark. -/
def atDefault (ts : List Tree) : Bool :=
  atWord "default" ts && !atOp "!" (ts.drop 1)

/-- A member of an implementation, behind its attributes. -/
def implMember (g : Rules) : P (List Piece) :=
  covered do
    let visibility ← visibility?
    let default_ ← if ← ahead atDefault then word "default" else pure []
    let mark := visibility ++ default_
    let ts ← get
    let (pieces, isForeign) ← do
      if atSignature false ts then implFunction g
      else if atWord "const" ts then implConstant g
      else if atWord "type" ts then implType g
      else
        require (mark.isEmpty && atMemberCall ts)
        pure (← memberCall, false)
    return (mark ++ pieces, isForeign)

/-! ### Foreign members -/

/-- A foreign function. With a body, or marked as safe, it is covered by no rule. -/
def foreignFunction (g : Rules) : P (List Piece × Bool) := do
  let s ← signature g true
  if ← ahead (atGroup .brace) then return (← definedFunction g s, true)
  else return (← declaredFunction s, s.isSafe)

/-- Whether a foreign static is ahead. -/
def atForeignStatic (ts : List Tree) : Bool :=
  atWord "static" ts || (atAnyWord ["unsafe", "safe"] ts && atWord "static" (ts.drop 1))

/-- A foreign static. Marked, or with a value, it is covered by no rule. -/
def foreignStatic (g : Rules) : P (List Piece × Bool) := do
  let mark ← do if ← ahead (atWord "static") then pure [] else anyIdent
  let head ← sequence [word "static", word? "mut", ident, op ":", g.type true]
  let value ← default? (g.expression true)
  return (mark ++ head ++ value ++ (← op ";"), !mark.isEmpty || !value.isEmpty)

/-- A foreign type. Its predicates are not part of the normal form. -/
def foreignType (g : Rules) : P (List Piece × Bool) := do
  let t ← typeDeclaration g .both
  return (t.head ++ dropped t.predicates.inLine ++ semicolon,
    t.bounds.isSome || t.value.isSome)

/-- A foreign member, behind its attributes. -/
def foreignMember (g : Rules) : P (List Piece) :=
  covered do
    let mark ← visibility?
    let ts ← get
    let (pieces, isForeign) ← do
      if atSignature true ts then foreignFunction g
      else if atForeignStatic ts then foreignStatic g
      else if atWord "type" ts then foreignType g
      else
        require (mark.isEmpty && atMemberCall ts)
        pure (← memberCall, false)
    return (mark ++ pieces, isForeign)

/-- Braces with inner attributes and members. -/
def members (g : Rules) (member : P (List Piece)) : P (List Piece) :=
  group .brace (sequence [innerAttributes g,
    many do
      if ← atEnd then return none
      else return some (← sequence [outerAttributes g, member])])

end StateMachine.Rust.Grammar
