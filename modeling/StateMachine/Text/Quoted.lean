/-!
# Escaping for Quotation

A text that is put between double quotes has its backslashes and double quotes marked by
a backslash; every other character stands for itself.
-/

namespace StateMachine.Text

/-- Marks each backslash and each double quote by a backslash. -/
def escapeChars : List Char → List Char
  | [] => []
  | c :: rest =>
    if c = '\\' ∨ c = '"' then '\\' :: c :: escapeChars rest else c :: escapeChars rest

/-- The text as it is written between double quotes. -/
def escape (s : String) : String :=
  String.ofList (escapeChars s.toList)

end StateMachine.Text
