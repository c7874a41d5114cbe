import StateMachine.Rust.Grammar.Member

/-!
# Rust Items

The items that a block or module may hold: functions, types, traits, implementations,
modules, imports, constants and macro definitions.

Some items can be read although no rule covers them, such as a function without body.
-/

namespace StateMachine.Rust.Grammar

/-! ### Fields -/

/-- The type of a nameless field, which may be a struct or union that stands there, and which
no rule covers then. -/
def fieldType (g : Rules) (isNameless : Bool) : P (List Piece) := do
  let ts ← get
  if isNameless && (atWord "struct" ts || (atWord "union" ts && atGroup .brace (ts.drop 1)))
  then
    let written ← asWritten (sequence [anyIdent, g .fields])
    return [.writtenOnly written]
  else g.type true

/-- A field with a name, or `_` in its place. -/
def namedField (g : Rules) : P (List Piece) := do
  let head ← sequence [outerAttributes g, visibility?]
  let isNameless ← ahead (atWord "_")
  return head ++ (← sequence [newName, op ":", fieldType g isNameless])

/-- A field without a name. -/
def plainField (g : Rules) : P (List Piece) :=
  sequence [outerAttributes g, visibility?, g.type true]

/-- Fields with names. -/
def namedFields (g : Rules) : P (List Piece) :=
  group .brace (commaList (namedField g))

/-- Fields without names. -/
def plainFields (g : Rules) : P (List Piece) :=
  group .paren (commaList (plainField g))

/-- The fields of a variant. -/
def fields? (g : Rules) : P (List Piece) := do
  let ts ← get
  if atGroup .brace ts then namedFields g
  else if atGroup .paren ts then plainFields g
  else return []

/-- A variant of an enumeration, perhaps with its number. Who may see it is not written. -/
def variant (g : Rules) : P (List Piece) := do
  let attributes ← outerAttributes g
  let _ ← visibility?
  return attributes ++ (← sequence [ident, fields? g, default? (g.expression true)])

/-! ### Types -/

/-- A struct. -/
def struct (g : Rules) : P (List Piece) := do
  let head ← sequence [word "struct", ident, parameters? g]
  if ← ahead (atGroup .paren) then
    let fields ← plainFields g
    return head ++ fields ++ (← where? g).inLine ++ (← op ";")
  else
    let predicates ← where? g
    if ← ahead (atOp ";") then return head ++ predicates.inLine ++ (← op ";")
    else return head ++ predicates.beforeBody ++ (← namedFields g)

/-- An enumeration. -/
def enumeration (g : Rules) : P (List Piece) := do
  let head ← sequence [word "enum", ident, parameters? g]
  return head ++ (← where? g).beforeBody ++ (← group .brace (commaList (variant g)))

/-- A union. -/
def union (g : Rules) : P (List Piece) := do
  let head ← sequence [word "union", ident, parameters? g]
  return head ++ (← where? g).beforeBody ++ (← namedFields g)

/-- Another name for a type. With bounds or without value it is covered by no rule. -/
def typeAlias (g : Rules) : P (List Piece × Bool) := do
  let t ← typeDeclaration g .beforeEquals
  let pieces := t.head ++ t.bounds.getD [] ++ t.predicates.inLine ++ t.value.getD []
  return (pieces ++ semicolon, t.bounds.isSome || t.value.isNone)

/-! ### Constants -/

/-- A constant. Generic, or without value, it is covered by no rule. -/
def constant (g : Rules) : P (List Piece × Bool) := do
  let keyword ← word "const"
  let (pieces, isGeneric, hasValue) ← constantBehind g
  return (keyword ++ pieces, isGeneric || !hasValue)

/-- A static. Without type or value it is covered by no rule. -/
def static (g : Rules) : P (List Piece × Bool) := do
  let head ← sequence [word "static", word? "mut", ident]
  let type ← do
    if ← ahead (atOp "=") then pure [] else sequence [op ":", g.type true]
  let value ← default? (g.expression true)
  return (head ++ type ++ value ++ (← op ";"), type.isEmpty || value.isEmpty)

/-! ### Functions -/

/-- A function. Without body it is covered by no rule. -/
def function (g : Rules) : P (List Piece × Bool) := do
  let s ← signature g false
  if ← ahead (atOp ";") then return (← declaredFunction s, true)
  else return (← definedFunction g s, false)

/-! ### Traits and implementations -/

/-- Where bounds of a trait end. -/
def atTraitBoundsEnd (ts : List Tree) : Bool :=
  atWord "where" ts || atGroup .brace ts

/-- A trait behind its name and parameters. -/
def traitBehind (g : Rules) : P (List Piece) := do
  let bounds ← colonBounds? atTraitBoundsEnd (g.bound true)
  return bounds ++ (← where? g).beforeBody ++ (← members g (traitMember g))

/-- Another name for bounds, behind the name and parameters. -/
def traitAliasBehind (g : Rules) : P (List Piece) := do
  let sign ← op "="
  let bounds ← plusBounds (fun ts => atWord "where" ts || atOp ";" ts) (g.bound false)
  return sign ++ bounds ++ (← where? g).inLine ++ (← op ";")

/-- A trait, or another name for bounds. -/
def trait (g : Rules) : P (List Piece) := do
  let marks ← sequence [word? "unsafe", word? "auto"]
  let head ← sequence [word "trait", ident, parameters? g]
  if marks.isEmpty && (← ahead (atOp "=")) then return head ++ (← traitAliasBehind g)
  else return marks ++ head ++ (← traitBehind g)

/-- The trait and type of an implementation, or the type alone. The flag says whether no
rule covers it. -/
def implSubject (g : Rules) : P (List Piece × Bool) := do
  let ts ← get
  let isNegative := atOp "!" ts && !atGroup .brace (ts.drop 1)
  let ((mark, first), trees) ← taken do
    let mark ← if isNegative then op "!" else pure []
    let first : Ty ← g (.type true)
    return (mark, first)
  if ← ahead (atWord "for") then
    let behind ← sequence [word "for", g.type true]
    return (mark ++ first.pieces ++ behind, !first.isPath)
  else if isNegative then return ([.writtenOnly (Tree.pieces trees)], false)
  else return (first.pieces, false)

/-- An implementation. Behind `const` or a visibility it is covered by no rule. -/
def implementation (g : Rules) : P (List Piece × Bool) := do
  let marks ← sequence [word? "default", word? "unsafe", word "impl"]
  let parameters ← do if ← ahead atParameters then parameters? g else pure []
  let constant ← do
    if ← ahead fun ts => atOp "?" ts && atWord "const" (ts.drop 1) then
      sequence [op "?", word "const"]
    else word? "const"
  let (subject, isForeign) ← implSubject g
  let body := (← where? g).beforeBody ++ (← members g (implMember g))
  return (marks ++ parameters ++ constant ++ subject ++ body,
    isForeign || !constant.isEmpty)

/-! ### Modules -/

/-- A module, perhaps with its items. -/
def module_ (g : Rules) : P (List Piece) := do
  let head ← sequence [word? "unsafe", word "mod",
    do if ← ahead (atWord "try") then anyIdent else ident]
  if ← ahead (atOp ";") then return head ++ (← op ";")
  else return head ++ (← members g (g .item))

/-- A library that is used. -/
def library : P (List Piece) := do
  let head ← sequence [word "extern", word "crate",
    do if ← ahead (atWord "self") then anyIdent else ident]
  let name ← do if ← ahead (atWord "as") then sequence [word "as", newName] else pure []
  return head ++ name ++ (← op ";")

/-- A block of foreign functions. -/
def foreignBlock (g : Rules) : P (List Piece) :=
  sequence [word? "unsafe", convention, members g (foreignMember g)]

/-! ### Macros -/

/-- What defines a macro. In normal form it is in braces, with a semicolon behind each
rule. -/
def macroRules (d : Delimiter) (body : List Tree) : List Piece :=
  let written := [Piece.group d (Tree.pieces body)]
  match Spacing.rulesText? body with
  | some text => reread written text
  | none => [.writtenOnly written]

/-- The definition of a macro by rules, behind `macro_rules`. -/
def macroDefinition : P (List Piece) := do
  let head ← sequence [word "macro_rules", op "!",
    do if ← ahead (atWord "try") then anyIdent else ident]
  let (d, body) ← anyGroup
  let rules := head ++ macroRules d body
  if d = .brace then return rules else return rules ++ dropped (← op ";")

/-- A macro call as an item, perhaps with a name behind the mark. -/
def itemCall : P (List Piece) := do
  let path ← plainPath
  let mark ← op "!"
  let name ← do
    if ← ahead fun ts => atIdent ts || atWord "try" ts then anyIdent else pure []
  let (d, body) ← anyGroup
  let call := path ++ mark ++ name ++ macroInput d body
  if d = .brace then return call else return call ++ (← op ";")

/-- Whether the definition of a macro by rules is ahead. -/
def atMacroDefinition (ts : List Tree) : Bool :=
  let name := ts.drop 2
  atWord "macro_rules" ts && atOp "!" (ts.drop 1) && (atIdent name || atWord "try" name)

/-- A macro with parameters, which no rule covers. -/
def parametricMacro : P (List Piece) := do
  let head ← sequence [word "macro", ident]
  if ← ahead (atGroup .paren) then
    let _ ← anyGroup
  require (← ahead (atGroup .brace))
  let _ ← anyGroup
  return head

/-! ### Items -/

/-- Whether an item is ahead in a block. -/
def atItem (ts : List Tree) : Bool :=
  let next := ts.drop 1
  atAnyWord ["pub", "extern", "use", "fn", "mod", "type", "struct", "enum", "trait", "impl",
      "macro"] ts ||
    (atWord "crate" ts && !atOp "::" next) ||
    (atWord "static" ts && (atWord "mut" next || atIdent next)) ||
    (atWord "const" ts && !(atGroup .brace next || atOp "|" next ||
      atAnyWord ["static", "move"] next ||
      (atWord "async" next && !atAnyWord ["unsafe", "extern", "fn"] (next.drop 1)))) ||
    (atWord "unsafe" ts && !atGroup .brace next) ||
    (atWord "async" ts && atAnyWord ["unsafe", "extern", "fn"] next) ||
    (atWord "union" ts && atIdent next) || (atWord "auto" ts && atWord "trait" next) ||
    (atWord "default" ts && atAnyWord ["unsafe", "impl"] next)

/-- An item that begins with `unsafe`, behind its visibility. -/
def unsafeItem (g : Rules) (isVisible : Bool) : P (List Piece × Bool) := do
  let next := (← get).drop 1
  if atWord "trait" next || (atWord "auto" next && atWord "trait" (next.drop 1)) then
    return (← trait g, false)
  else if atWord "impl" next then
    let (pieces, isForeign) ← implementation g
    return (pieces, isForeign || isVisible)
  else if atWord "extern" next then
    require !isVisible
    return (← foreignBlock g, false)
  else return (← module_ g, false)

/-- An item that begins with `extern` and is no function, behind its visibility. -/
def externItem (g : Rules) (isVisible : Bool) : P (List Piece) := do
  if ← ahead fun ts => atWord "crate" (ts.drop 1) then library
  else
    require !isVisible
    foreignBlock g

/-- An item behind its attributes and visibility. The flag says whether no rule covers
it. -/
def itemBehind (g : Rules) (isVisible : Bool) : P (List Piece × Bool) := do
  let ts ← get
  let next := ts.drop 1
  if atSignature false ts then function g
  else if atWord "extern" ts then return (← externItem g isVisible, false)
  else if atWord "use" ts then
    return (← sequence [word "use", itemImport, op ";"], false)
  else if atWord "static" ts then static g
  else if atWord "const" ts then constant g
  else if atWord "unsafe" ts then unsafeItem g isVisible
  else if atWord "mod" ts then return (← module_ g, false)
  else if atWord "type" ts then typeAlias g
  else if atWord "struct" ts then return (← struct g, false)
  else if atWord "enum" ts then return (← enumeration g, false)
  else if atWord "union" ts && atIdent next then return (← union g, false)
  else if atWord "trait" ts || (atWord "auto" ts && atWord "trait" next) then
    return (← trait g, false)
  else if atWord "impl" ts || atDefault ts then
    let (pieces, isForeign) ← implementation g
    return (pieces, isForeign || isVisible)
  else if atWord "macro" ts then return (← parametricMacro, true)
  else
    require (!isVisible && atMemberCall ts)
    if atMacroDefinition ts then return (← macroDefinition, false)
    else return (← itemCall, false)

/-- An item behind its attributes. -/
def item (g : Rules) : P (List Piece) :=
  covered do
    let visibility ← visibility?
    let (pieces, isForeign) ← itemBehind g !visibility.isEmpty
    return (visibility ++ pieces, isForeign)

end StateMachine.Rust.Grammar
