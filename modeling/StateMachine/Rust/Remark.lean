import StateMachine.Rust.Lexer

/-!
# Remarks

An attribute can stand for a comment: `doc = "…"` for a documentation comment and
`comment = "…"` for an ordinary one. In normal form such an attribute is the comment. A
comment ends with its line, so a text of several lines needs a block comment, which in turn
may hold block comments only in pairs.

Text that would be read differently as a comment stays an attribute.

## Main definitions

* `documentation?`: the comment that a `doc` attribute stands for.
* `remark?`: the comment that a `comment` attribute stands for.
-/

namespace StateMachine.Rust.Remark

/-- Whether block comments open and close in pairs, `depth` of them being open. -/
def isBalanced (depth : Nat) : List Char → Bool
  | '/' :: '*' :: rest => isBalanced (depth + 1) rest
  | '*' :: '/' :: rest => depth ≠ 0 && isBalanced (depth - 1) rest
  | _ :: rest => isBalanced depth rest
  | [] => depth = 0

/-- Whether a text can stand in a block comment. -/
def fitsBlock (cs : List Char) : Bool :=
  isBalanced 0 cs && cs.getLast? ≠ some '/'

/-- A line without the spaces at its end. -/
def trimEnd (cs : List Char) : List Char :=
  (cs.reverse.dropWhile (· = ' ')).reverse

/-- Lines without the spaces at their ends; the last is kept as it is. -/
def trimLines (cs : List Char) : List Char :=
  cs.foldr
    (fun c behind =>
      if c = ' ' && behind.head? = some '\n' then behind else c :: behind) []

/-- Whether a text has several lines. -/
def hasLines (cs : List Char) : Bool := cs.contains '\n'

/-- Whether a text begins with one of the characters. -/
def beginsWith (first : List Char) (cs : List Char) : Bool :=
  cs.head?.any first.contains

/-- A comment of one line. -/
def lineComment (mark : String) (cs : List Char) : String :=
  mark ++ String.ofList (trimEnd cs) ++ "\n"

/-- A block comment. -/
def blockComment (mark : String) (cs : List Char) : String :=
  mark ++ String.ofList (trimLines cs) ++ "*/"

/-- The documentation comment with the given text, if it can be one. An inner one documents
what it stands in. -/
def documentation? (inner : Bool) (text : String) : Option String :=
  let cs := text.toList
  if !hasLines cs && (inner || !beginsWith ['/'] cs) then
    some (lineComment (if inner then "//!" else "///") cs)
  else if fitsBlock cs && (inner || !beginsWith ['*', '/'] cs) then
    some (blockComment (if inner then "/*!" else "/**") cs)
  else none

/-- The ordinary comment with the given text, if it can be one. -/
def remark? (text : String) : Option String :=
  let cs := text.toList
  if !hasLines cs then some (lineComment "//" cs)
  else if fitsBlock cs && !beginsWith ['*', '!'] cs then some (blockComment "/*" cs)
  else none

/-- What a comment is read as. -/
def read (comment : String) : Option (List Tree) := Lexer.lex comment

end StateMachine.Rust.Remark
