import StateMachine.Text.Printable

/-!
# Rust String Literals

A text is written as a string literal between double quotes. The double quote, the
backslash and the usual control characters have short escapes; every other character that
is not printable on its own is written as the hexadecimal number of its code point; all
others stand for themselves. The null character is written `\0`, but `\x00` before an octal
digit, where the short form could be misread.
-/

namespace StateMachine.Rust

/-- The escape of a character by its code point: `\u`, then the hexadecimal number in
braces. -/
def codePointEscape (c : Char) : String :=
  "\\u\x7b" ++ String.ofList (Nat.toDigits 16 c.val.toNat) ++ "\x7d"

/-- A character as it stands in a string literal. -/
def quotedChar (c : Char) : String :=
  if c = '\t' then "\\t"
  else if c = '\r' then "\\r"
  else if c = '\n' then "\\n"
  else if c = '"' then "\\\""
  else if c = '\\' then "\\\\"
  else if Text.isPrintable c then String.singleton c
  else codePointEscape c

/-- Whether the text goes on with an octal digit. -/
def startsOctal : List Char → Bool
  | c :: _ => '0' ≤ c && c ≤ '7'
  | [] => false

/-- Characters as they stand in a string literal. -/
def quotedChars : List Char → String
  | [] => ""
  | c :: rest =>
    (if c = '\x00' then if startsOctal rest then "\\x00" else "\\0" else quotedChar c) ++
      quotedChars rest

/-- The string literal of a text. -/
def stringLiteral (s : String) : String :=
  "\"" ++ quotedChars s.toList ++ "\""

end StateMachine.Rust
