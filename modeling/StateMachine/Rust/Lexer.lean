import StateMachine.Rust.Quote
import StateMachine.Rust.Token
import StateMachine.Text.Blank
import StateMachine.Text.Identifier

/-!
# The Rust Lexer

Reads text as token trees. A scanner takes the characters from where it stands and gives
back those behind the token, or nothing if no such token stands there. At each point the
lexer skips blank space and comments and then tries, in this order, documentation comments,
placeholders, brackets, literals, punctuation with lifetimes, and identifiers.

Documentation comments are attributes: `/// x` stands for `#[doc = " x"]`.

## Conventions

Scanners that repeat take fuel, a bound on the number of characters they may take; `lex`
supplies the length of the text, which is always enough.
-/

namespace StateMachine.Rust.Lexer

open StateMachine.Text

/-- The characters behind a token; nothing if the token does not stand here. -/
abbrev Scan := List Char → Option (List Char)

/-- The characters behind the text `text`. -/
def literally (text : String) : Scan := fun cs =>
  let expected := text.toList
  if expected.isPrefixOf cs then some (cs.drop expected.length) else none

/-- Whether the characters begin with the text `text`. -/
def startsWith (text : String) (cs : List Char) : Bool :=
  text.toList.isPrefixOf cs

/-! ### Identifiers -/

/-- An identifier or keyword that is not raw, and the characters behind it. -/
def word : List Char → Option (String × List Char)
  | c :: rest =>
    if isIdentifierStart c then
      some (String.ofList (c :: rest.takeWhile isIdentifierContinue),
        rest.dropWhile isIdentifierContinue)
    else none
  | [] => none

/-- The words that cannot be raw identifiers. -/
def neverRaw : List String := ["_", "super", "self", "Self", "crate"]

/-- An identifier or keyword, raw or not, and the characters behind it. -/
def anyIdent (cs : List Char) : Option (Ident × List Char) :=
  match literally "r#" cs with
  | some rest =>
    (word rest).bind fun (text, rest) =>
      if neverRaw.contains text then none else some ({ text, raw := true }, rest)
  | none => (word cs).map fun (text, rest) => ({ text }, rest)

/-- The beginnings that announce a literal, where no identifier can stand. -/
def literalBeginnings : List String :=
  ["r\"", "r#\"", "r##", "b\"", "b'", "br\"", "br#", "c\"", "cr\"", "cr#"]

/-- Whether a literal is announced. -/
def announcesLiteral (cs : List Char) : Bool :=
  literalBeginnings.any (startsWith · cs)

/-- An identifier or keyword where no literal is announced. -/
def ident (cs : List Char) : Option (Ident × List Char) :=
  if announcesLiteral cs then none else anyIdent cs

/-- The characters behind the suffix of a literal, if it has one. -/
def skipSuffix (cs : List Char) : List Char :=
  match word cs with
  | some (_, rest) => rest
  | none => cs

/-- Succeeds where no identifier character follows. -/
def wordBreak : Scan
  | c :: rest => if isIdentifierContinue c then none else some (c :: rest)
  | [] => some []

/-! ### Escapes -/

/-- The value of a hexadecimal digit. -/
def hexValue (c : Char) : Option Nat :=
  if '0' ≤ c && c ≤ '9' then some (c.toNat - '0'.toNat)
  else if 'a' ≤ c && c ≤ 'f' then some (10 + c.toNat - 'a'.toNat)
  else if 'A' ≤ c && c ≤ 'F' then some (10 + c.toNat - 'A'.toNat)
  else none

/-- Where quoted text occurs, which decides its escapes. -/
inductive Quoted where
  | text
  | bytes
  | cText
  deriving DecidableEq

/-- Two hexadecimal digits: below 128 in text, and not zero in C text. -/
def hexEscape (q : Quoted) : Scan
  | a :: b :: rest =>
    match hexValue a, hexValue b with
    | some x, some y =>
      match q with
      | .text => if x < 8 then some rest else none
      | .bytes => some rest
      | .cText => if x = 0 && y = 0 then none else some rest
    | _, _ => none
  | _ => none

/-- Whether a number is the code point of a character. -/
def isScalar (n : Nat) : Bool :=
  n < 0xD800 || (0xDFFF < n && n ≤ 0x10FFFF)

/-- The digits of a code point up to the closing brace: one to six hexadecimal digits, with
underscores anywhere but in front. -/
def codePointDigits (value count : Nat) : List Char → Option (Nat × List Char)
  | [] => none
  | c :: rest =>
    match hexValue c with
    | some digit =>
      if count = 6 then none else codePointDigits (value * 16 + digit) (count + 1) rest
    | none =>
      if count = 0 then none
      else if c = '_' then codePointDigits value count rest
      else if c = '\x7d' && isScalar value then some (value, rest)
      else none

/-- A code point in braces; not zero in C text. -/
def codePoint (q : Quoted) : Scan
  | '\x7b' :: rest =>
    (codePointDigits 0 0 rest).bind fun (value, rest) =>
      if q = .cText && value = 0 then none else some rest
  | _ => none

/-- The characters behind the white space that a backslash at the end of a line skips. -/
def skipContinuation : Scan
  | ' ' :: rest | '\t' :: rest | '\n' :: rest => skipContinuation rest
  | '\r' :: '\n' :: rest => skipContinuation rest
  | '\r' :: _ => none
  | [] => none
  | c :: rest => some (c :: rest)

/-- The characters that stand for themselves or a control character after a backslash. -/
def isSimpleEscape (q : Quoted) (c : Char) : Bool :=
  "nrt\\'\"".toList.contains c || (q ≠ .cText && c = '0')

/-- What follows a backslash, except at the end of a line. -/
def escape (q : Quoted) : Scan
  | 'x' :: rest => hexEscape q rest
  | 'u' :: rest => if q = .bytes then none else codePoint q rest
  | c :: rest => if isSimpleEscape q c then some rest else none
  | [] => none

/-- Whether a character may stand unescaped. -/
def mayStand (q : Quoted) (c : Char) : Bool :=
  match q with
  | .text => true
  | .bytes => c.val < 0x80
  | .cText => c ≠ '\x00'

/-! ### Literals -/

/-- Quoted text up to and with the closing quote. -/
def quotedBody (q : Quoted) : Nat → Scan
  | 0, _ => none
  | fuel + 1, cs =>
    match cs with
    | [] => none
    | '"' :: rest => some rest
    | '\r' :: '\n' :: rest => quotedBody q fuel rest
    | '\r' :: _ => none
    | '\\' :: '\n' :: rest => (skipContinuation rest).bind (quotedBody q fuel)
    | '\\' :: '\r' :: '\n' :: rest => (skipContinuation rest).bind (quotedBody q fuel)
    | '\\' :: rest => (escape q rest).bind (quotedBody q fuel)
    | c :: rest => if mayStand q c then quotedBody q fuel rest else none

/-- Raw text up to and with the quote and the number marks that close it. -/
def rawBody (q : Quoted) (marks : List Char) : Scan
  | [] => none
  | '\r' :: '\n' :: rest => rawBody q marks rest
  | '\r' :: _ => none
  | c :: rest =>
    if c = '"' && marks.isPrefixOf rest then some (rest.drop marks.length)
    else if mayStand q c then rawBody q marks rest
    else none

/-- Raw text from the number marks before its opening quote on. -/
def rawQuoted (q : Quoted) (cs : List Char) : Option (List Char) :=
  let marks := cs.takeWhile (· = '#')
  match cs.dropWhile (· = '#') with
  | '"' :: rest => if marks.length > 255 then none else rawBody q marks rest
  | _ => none

/-- A string literal of one kind, cooked or raw, given how the two begin. -/
def stringOf (q : Quoted) (cooked raw : String) (fuel : Nat) : Scan := fun cs =>
  match literally cooked cs with
  | some rest => (quotedBody q fuel rest).map skipSuffix
  | none => ((literally raw cs).bind (rawQuoted q)).map skipSuffix

/-- One character or escape between single quotes, from behind the opening quote on. -/
def quotedChar (q : Quoted) : Scan := fun cs =>
  let behind : Option (List Char) :=
    match cs with
    | '\\' :: rest => escape q rest
    | c :: rest => if mayStand q c then some rest else none
    | [] => none
  match behind with
  | some ('\'' :: rest) => some (skipSuffix rest)
  | _ => none

/-- Whether a character is a decimal digit. -/
def isDigit (c : Char) : Bool := '0' ≤ c && c ≤ '9'

/-- How the digits of a number end. -/
inductive Mantissa where
  /-- No exponent follows. -/
  | plain (hasDot : Bool) (rest : List Char)
  /-- An exponent mark follows, which `mark` still includes. -/
  | exponent (hasDot : Bool) (mark rest : List Char)

/-- The digits before and behind the decimal point. No second point and no identifier may
follow the point. -/
def mantissa (hasDot : Bool) : List Char → Option Mantissa
  | [] => some (.plain hasDot [])
  | c :: rest =>
    if isDigit c || c = '_' then mantissa hasDot rest
    else if c = '.' && !hasDot then
      match rest with
      | next :: _ =>
        if next = '.' || isIdentifierStart next then none else mantissa true rest
      | [] => mantissa true rest
    else if c = 'e' || c = 'E' then some (.exponent hasDot (c :: rest) rest)
    else some (.plain hasDot (c :: rest))

/-- The sign and digits of an exponent; nothing if there is no digit. -/
def exponentDigits (hasSign hasDigit : Bool) : Scan
  | [] => if hasDigit then some [] else none
  | c :: rest =>
    if isDigit c then exponentDigits hasSign true rest
    else if c = '_' then exponentDigits hasSign hasDigit rest
    else if hasDigit then some (c :: rest)
    else if (c = '+' || c = '-') && !hasSign then exponentDigits true false rest
    else none

/-- The digits of a number with a point or an exponent. An exponent mark without digits
belongs to the suffix. -/
def floatDigits : Scan
  | [] => none
  | c :: rest =>
    if !isDigit c then none
    else
      match mantissa false rest with
      | none => none
      | some (.plain hasDot behind) => if hasDot then some behind else none
      | some (.exponent hasDot mark behind) =>
        match exponentDigits false false behind with
        | some behind => some behind
        | none => if hasDot then some mark else none

/-- A number with a point or an exponent, and its suffix. -/
def float : Scan := fun cs =>
  ((floatDigits cs).map skipSuffix).bind wordBreak

/-- The digits of a whole number in the given base; underscores may not stand in front in
base ten, and a decimal digit beyond the base is an error. -/
def baseDigits (base : Nat) (empty : Bool) : Scan
  | [] => if empty then none else some []
  | c :: rest =>
    if c = '_' then if empty && base = 10 then none else baseDigits base empty rest
    else
      match hexValue c with
      | some digit =>
        if digit < base then baseDigits base false rest
        else if isDigit c || empty then none
        else some (c :: rest)
      | none => if empty then none else some (c :: rest)

/-- The digits of a whole number, with the mark of its base. -/
def wholeDigits : Scan := fun cs =>
  match literally "0x" cs, literally "0o" cs, literally "0b" cs with
  | some rest, _, _ => baseDigits 16 true rest
  | none, some rest, _ => baseDigits 8 true rest
  | none, none, some rest => baseDigits 2 true rest
  | none, none, none => baseDigits 10 true cs

/-- A whole number and its suffix. -/
def whole : Scan := fun cs =>
  ((wholeDigits cs).map skipSuffix).bind wordBreak

/-- The scanners of literals, in the order in which they are tried. -/
def literalScanners (fuel : Nat) : List (LiteralKind × Scan) :=
  [(.string, stringOf .text "\"" "r" fuel),
   (.byteString, stringOf .bytes "b\"" "br" fuel),
   (.cString, stringOf .cText "c\"" "cr" fuel),
   (.byte, fun cs => (literally "b'" cs).bind (quotedChar .bytes)),
   (.char, fun cs => (literally "'" cs).bind (quotedChar .text)),
   (.float, float),
   (.integer, whole)]

/-- The literal that the first of the scanners to succeed finds. -/
def firstLiteral (cs : List Char) :
    List (LiteralKind × Scan) → Option (Leaf × List Char)
  | [] => none
  | (kind, scan) :: others =>
    match scan cs with
    | some rest =>
      some (.literal kind (String.ofList (cs.take (cs.length - rest.length))), rest)
    | none => firstLiteral cs others

/-- A literal, and the characters behind it. -/
def literal (fuel : Nat) (cs : List Char) : Option (Leaf × List Char) :=
  firstLiteral cs (literalScanners fuel)

/-! ### Punctuation and lifetimes -/

/-- The punctuation characters. -/
def punctuation : List Char := "~!@#$%^&*-=+|;:,<.>/?'".toList

/-- Whether a punctuation character stands here, and not a comment. -/
def atPunct (cs : List Char) : Bool :=
  if startsWith "//" cs || startsWith "/*" cs then false
  else
    match cs with
    | c :: _ => punctuation.contains c
    | [] => false

/-- A lifetime from behind its quote on. A quote or a number mark directly behind it makes
it a broken literal. Where a literal is announced, the quote stands alone in front of it. -/
def lifetime (cs : List Char) : Option (Leaf × List Char) :=
  (anyIdent cs).bind fun (i, rest) =>
    let found : Leaf × List Char :=
      if announcesLiteral cs then (.punct '\'' true, cs)
      else (.lifetime ("'" ++ i.spelling), rest)
    match rest with
    | '\'' :: _ => none
    | '#' :: _ => if i.raw then some found else none
    | _ => some found

/-- A punctuation character or a lifetime, and the characters behind it. -/
def punct (cs : List Char) : Option (Leaf × List Char) :=
  if atPunct cs then
    match cs with
    | '\'' :: rest => lifetime rest
    | c :: rest => some (.punct c (atPunct rest), rest)
    | [] => none
  else none

/-- How a placeholder for a literal is written. -/
def placeholder : String := "(/*ERROR*/)"

/-- A placeholder, and the characters behind it. -/
def placeholder? (cs : List Char) : Option (Leaf × List Char) :=
  (literally placeholder cs).map fun rest => (.literal .placeholder placeholder, rest)

/-- A token without inner structure, and the characters behind it. -/
def leaf (fuel : Nat) (cs : List Char) : Option (Leaf × List Char) :=
  match literal fuel cs with
  | some found => some found
  | none =>
    match punct cs with
    | some found => some found
    | none => (ident cs).map fun (i, rest) => (.ident i, rest)

/-! ### Comments -/

/-- The rest of a line and what follows it; the line end of the rest is not part of it. -/
def line : List Char → List Char × List Char
  | [] => ([], [])
  | '\n' :: rest => ([], '\n' :: rest)
  | '\r' :: '\n' :: rest => ([], '\n' :: rest)
  | c :: rest =>
    let (text, behind) := line rest
    (c :: text, behind)

/-- The text of a block comment that is `depth` comments deep, up to the end of the
outermost one, and what follows it. -/
def blockBody (depth : Nat) : List Char → Option (List Char × List Char)
  | [] => none
  | '/' :: '*' :: rest =>
    (blockBody (depth + 1) rest).map fun (text, behind) => ('/' :: '*' :: text, behind)
  | '*' :: '/' :: rest =>
    if depth ≤ 1 then some ([], rest)
    else (blockBody (depth - 1) rest).map fun (text, behind) => ('*' :: '/' :: text, behind)
  | c :: rest => (blockBody depth rest).map fun (text, behind) => (c :: text, behind)

/-- The text of a block comment, from its beginning on, and what follows it. -/
def blockComment (cs : List Char) : Option (List Char × List Char) :=
  (literally "/*" cs).bind (blockBody 1)

/-- Blank space beyond Unicode's: the two direction marks count too. -/
def isSpace (c : Char) : Bool :=
  isBlank c || c = '\u200e' || c = '\u200f'

/-- The characters behind the white space character or the comment that stands here. -/
def skipOne (cs : List Char) : Option (List Char) :=
  if startsWith "//" cs && (!startsWith "///" cs || startsWith "////" cs) &&
      !startsWith "//!" cs then
    some (line cs).2
  else if startsWith "/**/" cs then some (cs.drop 4)
  else if startsWith "/*" cs && (!startsWith "/**" cs || startsWith "/***" cs) &&
      !startsWith "/*!" cs then
    (blockComment cs).map Prod.snd
  else
    match cs with
    | c :: rest => if isSpace c then some rest else none
    | [] => none

/-- A documentation comment. -/
structure DocComment where
  /-- Whether it documents what it stands in, rather than what follows. -/
  inner : Bool
  text : List Char

/-- The documentation comment that stands here, and the characters behind it. -/
def docComment (cs : List Char) : Option (DocComment × List Char) :=
  let block (inner : Bool) :=
    (blockComment cs).map fun (text, rest) => (⟨inner, text.drop 1⟩, rest)
  if startsWith "//!" cs then
    let (text, rest) := line (cs.drop 3)
    some (⟨true, text⟩, rest)
  else if startsWith "/*!" cs then block true
  else if startsWith "///" cs && !startsWith "////" cs then
    let (text, rest) := line (cs.drop 3)
    some (⟨false, text⟩, rest)
  else if startsWith "/**" cs && !startsWith "/***" cs then block false
  else none

/-- Whether a carriage return stands alone. -/
def hasBareReturn : List Char → Bool
  | [] => false
  | '\r' :: '\n' :: rest => hasBareReturn rest
  | c :: rest => c = '\r' || hasBareReturn rest

/-- The attribute that a documentation comment stands for. -/
def DocComment.trees (d : DocComment) : List Tree :=
  [.leaf (.punct '#' false)] ++
    (if d.inner then [.leaf (.punct '!' false)] else []) ++
    [.group .bracket [
      .leaf (.ident { text := "doc" }), .leaf (.punct '=' false),
      .leaf (.literal .string (stringLiteral (String.ofList d.text)))]]

/-! ### Trees -/

/-- An open group: its bracket, and the trees before it, the latest first. -/
abbrev Frame := Delimiter × List Tree

/-- The bracket that a character opens. -/
def opened (c : Char) : Option Delimiter :=
  if c = '(' then some .paren
  else if c = '[' then some .bracket
  else if c = '\x7b' then some .brace
  else none

/-- The bracket that a character closes. -/
def closed (c : Char) : Option Delimiter :=
  if c = ')' then some .paren
  else if c = ']' then some .bracket
  else if c = '\x7d' then some .brace
  else none

/-- Reads trees up to the end of the text. `done` holds the trees of the innermost open
group, the latest first, and `open_` the groups around it, the innermost first. -/
def trees : Nat → List Frame → List Tree → List Char → Option (List Tree)
  | 0, _, _, _ => none
  | fuel + 1, frames, done, cs =>
    match skipOne cs with
    | some rest => trees fuel frames done rest
    | none =>
      match docComment cs with
      | some (doc, rest) =>
        if hasBareReturn doc.text then none
        else trees fuel frames (doc.trees.reverse ++ done) rest
      | none =>
        match cs with
        | [] => if frames.isEmpty then some done.reverse else none
        | c :: rest =>
          match placeholder? cs, opened c, closed c with
          | some (l, rest), _, _ => trees fuel frames (.leaf l :: done) rest
          | none, some d, _ => trees fuel ((d, done) :: frames) [] rest
          | none, none, some d =>
            match frames with
            | (d', before) :: outer =>
              if d = d' then trees fuel outer (.group d done.reverse :: before) rest
              else none
            | [] => none
          | none, none, none =>
            match leaf fuel cs with
            | some (l, rest) => trees fuel frames (.leaf l :: done) rest
            | none => none

/-- The token trees of a text; nothing if the text is not made of tokens. A byte order mark
in front is skipped. -/
def lex (s : String) : Option (List Tree) :=
  let cs := match s.toList with
    | '\ufeff' :: rest => rest
    | cs => cs
  trees (cs.length + 1) [] [] cs

end StateMachine.Rust.Lexer
