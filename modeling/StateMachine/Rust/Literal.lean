import StateMachine.Rust.Lexer

/-!
# Values of String Literals

A string literal keeps its text; the string that it stands for is a function of the text.
Escapes are resolved, a backslash at the end of a line skips the blank space behind it, and
a line end of two characters is read as one. In a raw literal everything stands for itself.

## Main definitions

* `stringValue?`: the string that a string literal stands for.
-/

namespace StateMachine.Rust

open Lexer

/-- The character that a single character behind a backslash stands for. -/
def simpleEscape? (c : Char) : Option Char :=
  if c = 'n' then some '\n'
  else if c = 'r' then some '\r'
  else if c = 't' then some '\t'
  else if c = '0' then some '\x00'
  else if c = '\\' || c = '\'' || c = '"' then some c
  else none

/-- The character that an escape stands for, from behind the backslash on, and what follows
the escape. -/
def escapeValue? : List Char → Option (Char × List Char)
  | 'x' :: a :: b :: rest => do
    return (Char.ofNat (16 * (← hexValue a) + (← hexValue b)), rest)
  | 'u' :: '\x7b' :: rest => do
    let (value, rest) ← codePointDigits 0 0 rest
    return (Char.ofNat value, rest)
  | c :: rest => do return (← simpleEscape? c, rest)
  | [] => none

/-- The characters that a literal stands for, from behind its opening quote on. -/
def cookedValue? : Nat → List Char → Option (List Char)
  | 0, _ => none
  | fuel + 1, cs =>
    match cs with
    | [] => none
    | '"' :: _ => some []
    | '\r' :: '\n' :: rest => (cookedValue? fuel rest).map ('\n' :: ·)
    | '\\' :: '\n' :: rest | '\\' :: '\r' :: '\n' :: rest =>
      (skipContinuation rest).bind (cookedValue? fuel)
    | '\\' :: rest => do
      let (c, rest) ← escapeValue? rest
      return c :: (← cookedValue? fuel rest)
    | c :: rest => (cookedValue? fuel rest).map (c :: ·)

/-- The characters that a raw literal stands for, from behind its opening quote on, given
the number marks that close it. -/
def rawValue? (marks : List Char) : List Char → Option (List Char)
  | [] => none
  | c :: rest =>
    if c = '"' && marks.isPrefixOf rest then some []
    else (rawValue? marks rest).map (c :: ·)

/-- The string that a string literal stands for. -/
def stringValue? (text : String) : Option String :=
  match text.toList with
  | '"' :: rest => (cookedValue? (rest.length + 1) rest).map String.ofList
  | 'r' :: rest =>
    let marks := rest.takeWhile (· = '#')
    (rawValue? marks (rest.drop (marks.length + 1))).map String.ofList
  | _ => none

end StateMachine.Rust
