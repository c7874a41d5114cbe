import StateMachine.Rust.Lexer

/-!
# Spacing

The grammar does not look into what a macro is given, nor into the list of an attribute: it
has no rules for these trees. In normal form they are written as text with spaces where the
rules of this module put them, and read again. Mostly the trees come back; but what stands
close together can make one token, so that `1 . 0` becomes `1.0`.

## Main definitions

* `Spacing.macroText`: what a macro is given, as text.
* `Spacing.rulesText?`: the rules of a macro definition, as text.
* `Spacing.attributeText`: the list of an attribute, as text.
* `Spacing.read?`: the group that a text is.
-/

namespace StateMachine.Rust.Spacing

/-- What decides the space in front of a tree. -/
inductive Kind where
  | word (isReserved : Bool)
  | literal
  | punct (c : Char) (joint : Bool)
  | group (d : Delimiter)

/-- The words that stand apart from what follows them. -/
def reserved : List String :=
  ["as", "async", "await", "box", "break", "const", "continue", "crate", "dyn", "else",
   "enum", "extern", "fn", "for", "if", "impl", "in", "let", "loop", "macro", "match", "mod",
   "move", "mut", "pub", "ref", "return", "static", "struct", "trait", "type", "unsafe",
   "use", "where", "while", "yield"]

/-- The kind of a word. -/
def Kind.ofWord (text : String) : Kind := .word (reserved.contains text)

/-- The kind of a leaf. A lifetime is a quote and a word; this is the word. -/
def Kind.ofLeaf : Leaf → Kind
  | .ident i => .ofWord i.spelling
  | .punct c joint => .punct c joint
  | .literal _ _ => .literal
  | .lifetime text => .ofWord (text.drop 1).toString

/-! ### Macros -/

/-- What stands in front of the next tree. -/
inductive Place where
  | start
  | dollar
  | dollarWord
  | dollarWordColon
  | dollarParen
  | dollarParenSeparator
  | pound
  | poundBang
  | dot
  | colon
  | twoColons
  | word
  | wordBang
  | brackets
  | other
  deriving DecidableEq

/-- Whether a space stands in front of a tree, and the place behind it. In the pattern of a
rule, a name behind `$` goes on with its kind. -/
def place (isPattern : Bool) : Place → Kind → Bool × Place
  | .dollar, .word _ => (false, if isPattern then .dollarWord else .other)
  | .dollarWord, .punct ':' false => (false, .dollarWordColon)
  | .dollarWordColon, .word _ => (false, .other)
  | .dollarParen, .punct '+' false => (false, .other)
  | .dollarParen, .punct '*' false => (false, .other)
  | .dollarParen, .punct '?' false => (false, .other)
  | .dollarParen, .word _ => (false, .dollarParenSeparator)
  | .dollarParen, .literal => (false, .dollarParenSeparator)
  | .dollarParen, .punct _ true => (false, .dollarParen)
  | .dollarParen, .punct _ false => (false, .dollarParenSeparator)
  | .dollarParenSeparator, .punct '+' _ => (false, .other)
  | .dollarParenSeparator, .punct '*' _ => (false, .other)
  | .pound, .punct '!' _ => (false, .poundBang)
  | .dollar, .group .paren => (false, .dollarParen)
  | .pound, .group .bracket => (false, .other)
  | .poundBang, .group .bracket => (false, .other)
  | .word, .group .paren => (false, .brackets)
  | .word, .group .bracket => (false, .brackets)
  | .word, .punct '!' false => (false, .wordBang)
  | .wordBang, .group _ => (false, .other)
  | .colon, .punct ':' _ => (false, .twoColons)
  | _, .group .brace => (true, .other)
  | _, .group _ => (true, .brackets)
  | before, .word false => (before ≠ .dot && before ≠ .twoColons, .word)
  | before, .literal => (before ≠ .dot, .word)
  | _, .punct ',' _ => (false, .other)
  | _, .punct ';' _ => (false, .other)
  | before, .punct '.' _ =>
    if isPattern then (true, .other)
    else (before ≠ .word && before ≠ .brackets, .dot)
  | before, .punct ':' true => (before ≠ .word, .colon)
  | _, .punct '$' _ => (true, .dollar)
  | _, .punct '#' _ => (true, .pound)
  | _, _ => (true, .other)

/-- Whether nothing may stand between a tree and the next. -/
def Kind.clings : Kind → Bool
  | .punct c joint => joint || c = '$'
  | _ => false

/-- A token, and the space in front of it unless what is before it clings. -/
def spaced (isSpaced clings : Bool) (text : String) : String :=
  if isSpaced && !clings then " " ++ text else text

/-- The inside of a group; braces have spaces on both sides of it. -/
def padded (d : Delimiter) (inside : String) : String :=
  let space := if d = .brace && inside ≠ "" then " " else ""
  d.opening ++ space ++ inside ++ space ++ d.closing

mutual

/-- What a group is written as; nothing else is a group. -/
def groupText (isPattern : Bool) : Tree → String
  | .leaf _ => ""
  | .group d body => padded d (insideText isPattern .start true body)

/-- Trees as text, behind what `before` says; `clings` says whether it clings. -/
def insideText (isPattern : Bool) (before : Place) (clings : Bool) : List Tree → String
  | [] => ""
  | .leaf (.lifetime text) :: rest =>
    let (isSpaced, behind) := place isPattern before (.punct '\'' true)
    let kind := Kind.ofLeaf (.lifetime text)
    spaced isSpaced clings text ++
      insideText isPattern (place isPattern behind kind).2 false rest
  | .leaf l :: rest =>
    let kind := Kind.ofLeaf l
    let (isSpaced, behind) := place isPattern before kind
    spaced isSpaced clings l.text ++ insideText isPattern behind kind.clings rest
  | .group d body :: rest =>
    let (isSpaced, behind) := place isPattern before (.group d)
    spaced isSpaced clings (groupText isPattern (.group d body)) ++
      insideText isPattern behind false rest

end

/-- Text in brackets; in braces it has lines of its own. -/
def enclosed (d : Delimiter) (inside : String) : String :=
  let line := if d = .brace && inside ≠ "" then "\n" else ""
  d.opening ++ line ++ inside ++ line ++ d.closing

/-- What a macro is given, as text. -/
def macroText (d : Delimiter) (body : List Tree) : String :=
  enclosed d (insideText false .start true body)

/-! ### Rules of macros -/

/-- The rules of a macro definition as text: patterns in their brackets, and what they
stand for in braces. Nothing if the trees are no rules. A rule may be left unfinished. -/
def rulesInside? : List Tree → Option String
  | [] => some ""
  | .group d pattern :: rest =>
    let first := d.opening ++ insideText true .start true pattern ++ d.closing
    match rest with
    | [] => some (first ++ "\n")
    | .leaf (.punct '=' true) :: .leaf (.punct '>' false) :: [] => some (first ++ " =>\n")
    | .leaf (.punct '=' true) :: .leaf (.punct '>' false) :: .group _ body :: rest =>
      let rule := first ++ " => " ++ macroText .brace body ++ ";\n"
      match rest with
      | [] => some rule
      | .leaf (.punct ';' false) :: rest => (rulesInside? rest).map (rule ++ ·)
      | _ => none
    | _ => none
  | _ => none

/-- The rules of a macro definition, as text in braces. -/
def rulesText? (body : List Tree) : Option String :=
  (rulesInside? body).map (enclosed .brace)

/-! ### Attributes -/

/-- What stands in front of the next tree of an attribute. -/
inductive Side where
  | word
  | punct
  deriving DecidableEq

/-- A punctuation character of an attribute, behind `before`. -/
def punctText (before : Side) (c : Char) : String :=
  if c = '=' then if before = .word then " = " else "= "
  else if c = ',' then ", "
  else String.singleton c

mutual

/-- A group of an attribute as text; nothing else is a group. -/
def listText : Tree → String
  | .leaf _ => ""
  | .group d body => d.opening ++ itemsText .punct body ++ d.closing

/-- Trees of an attribute as text, behind what `before` says. A comma at the end is left
out. -/
def itemsText (before : Side) : List Tree → String
  | [] => ""
  | .leaf (.punct c _) :: rest =>
    if c = ',' && rest.isEmpty then "" else punctText before c ++ itemsText .punct rest
  | .leaf (.lifetime text) :: rest => text ++ itemsText .word rest
  | .leaf l :: rest => spaced (before = .word) false l.text ++ itemsText .word rest
  | .group d body :: rest => listText (.group d body) ++ itemsText .punct rest

end

/-- The list of an attribute, as text. -/
def attributeText (d : Delimiter) (body : List Tree) : String :=
  listText (.group d body)

/-! ### Reading -/

/-- The group that a text is. -/
def read? (text : String) : Option (List Tree) :=
  match Lexer.lex text with
  | some [.group d body] => some [.group d body]
  | _ => none

end StateMachine.Rust.Spacing
