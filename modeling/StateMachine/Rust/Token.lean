/-!
# Rust Tokens

Rust text is a sequence of token trees: a leaf, or a group in brackets that holds trees.
Punctuation is one character a leaf, which remembers whether another punctuation character
follows directly; operators of several characters are such runs.

The grammar reads trees and gives back pieces: the tokens in the order and form in which
they are written again. Where a construct has a normal form that differs from how it was
written, its piece holds both; some constructs have no normal form at all. Lines are no
matter of pieces, but where a line ends in any case is noted.

## Main definitions

* `Tree`: what the lexer produces.
* `Piece`: what the grammar produces.
* `tokensOf`: the tokens of pieces, as written or in normal form.
* `haveNormalForm`: whether pieces can be brought into normal form.
* `spanLines`: whether the normal form of pieces takes more than one line in any case.
* `dropCommas`: tokens without the commas that stand directly before a closing bracket.
* `breakLines`: tokens as lines of text.
-/

namespace StateMachine.Rust

/-- The three kinds of brackets. -/
inductive Delimiter where
  | paren
  | bracket
  | brace
  deriving DecidableEq, Repr

/-- The opening bracket. -/
def Delimiter.opening : Delimiter → String
  | .paren => "("
  | .bracket => "["
  | .brace => "\x7b"

/-- The closing bracket. -/
def Delimiter.closing : Delimiter → String
  | .paren => ")"
  | .bracket => "]"
  | .brace => "\x7d"

/-- An identifier or keyword. A raw identifier is written `r#text` and is no keyword. -/
structure Ident where
  text : String
  raw : Bool := false
  deriving DecidableEq, Repr

/-- The words that are no identifiers unless written raw. -/
def keywords : List String :=
  ["_", "abstract", "as", "async", "await", "become", "box", "break", "const", "continue",
   "crate", "do", "dyn", "else", "enum", "extern", "false", "final", "fn", "for", "if",
   "impl", "in", "let", "loop", "macro", "match", "mod", "move", "mut", "override", "priv",
   "pub", "ref", "return", "Self", "self", "static", "struct", "super", "trait", "true",
   "try", "type", "typeof", "unsafe", "unsized", "use", "virtual", "where", "while",
   "yield"]

namespace Ident

/-- The identifier as written. -/
def spelling (i : Ident) : String :=
  if i.raw then "r#" ++ i.text else i.text

/-- Whether the word is reserved, so that it names nothing. -/
def isKeyword (i : Ident) : Bool :=
  !i.raw && keywords.contains i.text

/-- The identifier made by appending `ending` to the text; it is not raw. -/
def extend (i : Ident) (ending : String) : Ident :=
  { text := i.text ++ ending }

end Ident

/-- The kinds of literals. -/
inductive LiteralKind where
  | string
  | byteString
  | cString
  | byte
  | char
  | integer
  | float
  /-- What stands for a literal that could not be made. -/
  | placeholder
  deriving DecidableEq, Repr

/-- A token without inner structure. -/
inductive Leaf where
  | ident (i : Ident)
  /-- A punctuation character, and whether another follows directly. -/
  | punct (c : Char) (joint : Bool)
  | literal (kind : LiteralKind) (text : String)
  /-- A lifetime or label, with its quote. -/
  | lifetime (text : String)
  deriving DecidableEq, Repr

/-- The leaf as written. -/
def Leaf.text : Leaf → String
  | .ident i => i.spelling
  | .punct c _ => String.singleton c
  | .literal _ text => text
  | .lifetime text => text

/-- A leaf, or a group in brackets. -/
inductive Tree where
  | leaf (l : Leaf)
  | group (d : Delimiter) (body : List Tree)
  deriving Repr

mutual

/-- The number of leaves and groups of a tree. -/
def Tree.size : Tree → Nat
  | .leaf _ => 1
  | .group _ body => Tree.sizeAll body + 1

/-- The number of leaves and groups of trees. -/
def Tree.sizeAll : List Tree → Nat
  | [] => 0
  | t :: rest => t.size + Tree.sizeAll rest

end

/-- A token to write, a group, or a part that is not written the same way always. -/
inductive Piece where
  | token (text : String)
  | group (d : Delimiter) (body : List Piece)
  /-- A part as it was written and in normal form. -/
  | either (written normal : List Piece)
  /-- A part that has no normal form, as it was written. -/
  | writtenOnly (body : List Piece)
  /-- The end of a line in normal form. It is no token. -/
  | lineEnd

/-- Whether a piece is the given token. -/
def Piece.isToken (text : String) : Piece → Bool
  | .token text' => text = text'
  | _ => false

mutual

/-- A tree as a piece. A quote that begins no lifetime is not written. -/
def Tree.piece : Tree → Piece
  | .leaf (.punct '\'' _) => .either [] []
  | .leaf l => .token l.text
  | .group d body => .group d (Tree.pieces body)

/-- Trees as pieces. -/
def Tree.pieces : List Tree → List Piece
  | [] => []
  | t :: rest => t.piece :: Tree.pieces rest

end

mutual

/-- The tokens of a piece, in normal form if `normal` holds. -/
def Piece.tokens (normal : Bool) : Piece → List String
  | .token text => [text]
  | .group d body => d.opening :: (tokensOf normal body ++ [d.closing])
  | .either written other =>
    if normal then tokensOf normal other else tokensOf normal written
  | .writtenOnly body => tokensOf normal body
  | .lineEnd => []

/-- The tokens of pieces, in normal form if `normal` holds. -/
def tokensOf (normal : Bool) : List Piece → List String
  | [] => []
  | p :: rest => p.tokens normal ++ tokensOf normal rest

end

mutual

/-- Whether a piece has a normal form. -/
def Piece.hasNormalForm : Piece → Bool
  | .token _ => true
  | .group _ body => haveNormalForm body
  | .either _ normal => haveNormalForm normal
  | .writtenOnly _ => false
  | .lineEnd => true

/-- Whether all pieces have a normal form. -/
def haveNormalForm : List Piece → Bool
  | [] => true
  | p :: rest => p.hasNormalForm && haveNormalForm rest

end

mutual

/-- Whether a piece has the end of a line in normal form. -/
def Piece.endsLines : Piece → Bool
  | .token _ | .writtenOnly _ => false
  | .group _ body => spanLines body
  | .either _ normal => spanLines normal
  | .lineEnd => true

/-- Whether pieces have the end of a line in normal form. -/
def spanLines : List Piece → Bool
  | [] => false
  | p :: rest => p.endsLines || spanLines rest

end

/-- Whether a token closes a bracket or an angle bracket. -/
def isClosing (token : String) : Bool :=
  token = ")" || token = "]" || token = "\x7d" || token = ">"

/-- The tokens without each comma that stands directly before a closing bracket. -/
def dropCommas : List String → List String
  | [] => []
  | [token] => [token]
  | token :: next :: rest =>
    if token = "," && isClosing next then dropCommas (next :: rest)
    else token :: dropCommas (next :: rest)

/-- Whether a line ends after the token. -/
def endsLine (token : String) : Bool :=
  token = "\x7b" || token = "\x7d" || token = ";"

/-- Adds a token to the first of the lines that follow it. -/
def addToken (token : String) (rest : List (List String)) : List (List String) :=
  if endsLine token then [token] :: rest
  else
    match rest with
    | [] => [[token]]
    | line :: lines => (token :: line) :: lines

/-- The tokens in lines; a line ends after each brace and semicolon. -/
def lineTokens (tokens : List String) : List (List String) :=
  tokens.foldr addToken []

/-- The tokens as lines of text, with spaces between the tokens of a line. -/
def breakLines (tokens : List String) : List String :=
  (lineTokens tokens).map (" ".intercalate ·)

end StateMachine.Rust
