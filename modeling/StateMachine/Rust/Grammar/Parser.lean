import StateMachine.Rust.Token

/-!
# Parsers over Token Trees

A parser takes trees from the front of a list and gives what it read with the trees that
are left, or fails. The predicates `at…` look ahead: they say what stands at the front of a
list of trees. What a parser reads is mostly given as pieces.

## Main definitions

* `P`: a parser.
* `inGroup`: the parser of a group, of which nothing may be left.
* `separatedBy`: items with a separator between them.
* `covered`: pieces, or the trees as they were written where no rule covers them.
-/

namespace StateMachine.Rust.Grammar

/-- A parser: what it read and the trees left, or failure. -/
abbrev P := StateT (List Tree) Option

/-! ### Looking at the trees ahead -/

/-- The punctuation of an operator, character by character; all but the last must be
directly followed by the next. -/
def atPunctChars : List Char → List Tree → Bool
  | [], _ => true
  | [c], .leaf (.punct c' _) :: _ => c = c'
  | c :: more, .leaf (.punct c' joint) :: rest => c = c' && joint && atPunctChars more rest
  | _, _ => false

/-- Whether the operator `op`, or one that it is the beginning of, is ahead. -/
def atOp (op : String) (ts : List Tree) : Bool :=
  atPunctChars op.toList ts

/-- Whether one of the operators is ahead. -/
def atAnyOp (ops : List String) (ts : List Tree) : Bool :=
  ops.any (atOp · ts)

/-- Whether the word `word`, not written raw, is ahead. -/
def atWord (word : String) : List Tree → Bool
  | .leaf (.ident i) :: _ => !i.raw && i.text = word
  | _ => false

/-- Whether one of the words is ahead. -/
def atAnyWord (words : List String) (ts : List Tree) : Bool :=
  words.any (atWord · ts)

/-- Whether an identifier is ahead that is no keyword. -/
def atIdent : List Tree → Bool
  | .leaf (.ident i) :: _ => !i.isKeyword
  | _ => false

/-- Whether an identifier or keyword is ahead. -/
def atAnyIdent : List Tree → Bool
  | .leaf (.ident _) :: _ => true
  | _ => false

/-- Whether a lifetime is ahead. -/
def atLifetime : List Tree → Bool
  | .leaf (.lifetime _) :: _ => true
  | _ => false

/-- Whether a group in the given brackets is ahead. -/
def atGroup (d : Delimiter) : List Tree → Bool
  | .group d' _ :: _ => d = d'
  | _ => false

/-- Whether a literal is ahead: a literal token, `true`, `false`, or a number with a minus
sign. -/
def atLiteral : List Tree → Bool
  | .leaf (.literal _ _) :: _ => true
  | .leaf (.punct '-' _) :: .leaf (.literal kind _) :: _ => kind = .integer || kind = .float
  | ts => atAnyWord ["true", "false"] ts

/-- Whether `.` is ahead, and not `..`. -/
def atDot (ts : List Tree) : Bool :=
  atOp "." ts && !atOp ".." ts

/-! ### Taking trees -/

/-- Fails unless the condition holds. -/
def require (condition : Bool) : P Unit :=
  if condition then pure () else failure

/-- Whether a predicate holds of the trees ahead. -/
def ahead (p : List Tree → Bool) : P Bool := do
  return p (← get)

/-- Whether no tree is left. -/
def atEnd : P Bool :=
  ahead List.isEmpty

/-- Takes an operator. -/
def op (s : String) : P (List Piece) := do
  require (atOp s (← get))
  modify (·.drop s.length)
  return s.toList.map fun c => .token (String.singleton c)

/-- Takes an operator if it is ahead. -/
def op? (s : String) : P (List Piece) := do
  if ← ahead (atOp s) then op s else return []

/-- Takes a word that is not written raw. -/
def word (s : String) : P (List Piece) := do
  require (atWord s (← get))
  modify (·.drop 1)
  return [.token s]

/-- Takes a word if it is ahead. -/
def word? (s : String) : P (List Piece) := do
  if ← ahead (atWord s) then word s else return []

/-- Takes an identifier or keyword. -/
def anyIdent : P (List Piece) := do
  match ← get with
  | .leaf (.ident i) :: rest =>
    set rest
    return [.token i.spelling]
  | _ => failure

/-- Takes an identifier that is no keyword. -/
def ident : P (List Piece) := do
  require (atIdent (← get))
  anyIdent

/-- Takes a lifetime. -/
def lifetime : P (List Piece) := do
  match ← get with
  | .leaf (.lifetime text) :: rest =>
    set rest
    return [.token text]
  | _ => failure

/-- Takes a lifetime if one is ahead. -/
def lifetime? : P (List Piece) := do
  if ← ahead atLifetime then lifetime else return []

/-- Takes a literal. A placeholder has no normal form. -/
def literal : P (List Piece) := do
  match ← get with
  | .leaf (.literal kind text) :: rest =>
    set rest
    return if kind = .placeholder then [.writtenOnly [.token text]] else [.token text]
  | .leaf (.punct '-' _) :: .leaf (.literal kind text) :: rest =>
    require (kind = .integer || kind = .float)
    set rest
    return [.token "-", .token text]
  | ts =>
    require (atAnyWord ["true", "false"] ts)
    anyIdent

/-- Takes a string literal if one is ahead. -/
def stringLiteral? : P (List Piece) := do
  match ← get with
  | .leaf (.literal .string text) :: rest =>
    set rest
    return [.token text]
  | _ => return []

/-- Runs a parser on the trees of a group ahead, all of which it must take. -/
def inGroup {α : Type} (d : Delimiter) (p : P α) : P α := do
  match ← get with
  | .group d' body :: rest =>
    require (d = d')
    match p.run body with
    | some (a, []) =>
      set rest
      return a
    | _ => failure
  | _ => failure

/-- Takes a group, whose pieces the parser reads from its trees. -/
def group (d : Delimiter) (p : P (List Piece)) : P (List Piece) := do
  let body ← inGroup d p
  return [.group d body]

/-- Takes a group, which is given. -/
def anyGroup : P (Delimiter × List Tree) := do
  match ← get with
  | .group d body :: rest =>
    set rest
    return (d, body)
  | _ => failure

/-- Runs a parser and gives the trees that it took, too. -/
def taken {α : Type} (p : P α) : P (α × List Tree) := do
  let before ← get
  let result ← p
  let behind ← get
  return (result, before.take (before.length - behind.length))

/-- Runs a parser, and gives the trees that it took as pieces. -/
def asWritten {α : Type} (p : P α) : P (List Piece) := do
  return Tree.pieces (← taken p).2

/-- Pieces, or the trees as they were written if the flag says that no rule covers them. -/
def covered (p : P (List Piece × Bool)) : P (List Piece) := do
  let ((pieces, isForeign), trees) ← taken p
  return if isForeign then [.writtenOnly (Tree.pieces trees)] else pieces

/-! ### Repetition -/

/-- Repeats a step until it gives nothing, at most `n` times. -/
def manyUpTo : Nat → P (Option (List Piece)) → P (List Piece)
  | 0, _ => failure
  | n + 1, step => do
    match ← step with
    | none => return []
    | some first => return first ++ (← manyUpTo n step)

/-- Repeats a step until it gives nothing. Each step takes a tree, so there are no more
steps than trees. -/
def many (step : P (Option (List Piece))) : P (List Piece) := do
  manyUpTo ((← get).length + 1) step

/-- Repeats a parser while a predicate holds of the trees ahead. -/
def manyWhile (p : List Tree → Bool) (item : P (List Piece)) : P (List Piece) :=
  many do if ← ahead p then return some (← item) else return none

/-- Items with a separator between them, up to where `stop` holds; at most `n`. -/
def separatedUpTo (separator : String) (stop : List Tree → Bool) (item : P (List Piece)) :
    Nat → P (List Piece)
  | 0 => failure
  | n + 1 => do
    if ← ahead stop then return []
    let first ← item
    if ← ahead stop then return first
    let between ← op separator
    return first ++ between ++ (← separatedUpTo separator stop item n)

/-- Items with a separator between them, and perhaps one at the end, up to where `stop`
holds. -/
def separatedBy (separator : String) (stop : List Tree → Bool) (item : P (List Piece)) :
    P (List Piece) := do
  separatedUpTo separator stop item ((← get).length + 1)

/-- Items with commas between them, up to the end. -/
def commaList (item : P (List Piece)) : P (List Piece) :=
  separatedBy "," List.isEmpty item

/-- Items of which a separator at the end is left out in normal form. -/
def dropLast (separator : String) (ps : List Piece) : List Piece :=
  match ps.getLast? with
  | some p => if p.isToken separator then ps.dropLast ++ [.either [p] []] else ps
  | none => ps

/-- Puts the results of parsers one after the other. -/
def sequence : List (P (List Piece)) → P (List Piece)
  | [] => return []
  | p :: rest => return (← p) ++ (← sequence rest)

end StateMachine.Rust.Grammar
