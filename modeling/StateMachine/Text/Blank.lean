/-!
# Blank Characters

A name, a condition or an argument may be surrounded by blank space, and a text that is
blank throughout counts as missing. Blank means Unicode's `White_Space` property: the
twenty-five characters of `isBlank`, and no others. Zero-width and joining characters are
not blank.

## Main definitions

* `isBlank`: the character class.
* `trim`: the text without its blank ends.
* `trimEnd`: the text without its blank end.
* `isBlankText`: no character of the text is anything but blank.
-/

namespace StateMachine.Text

/-- Whether `c` has Unicode's `White_Space` property. -/
def isBlank (c : Char) : Bool :=
  let n := c.val.toNat
  (9 ≤ n && n ≤ 13) || n == 0x20 || n == 0x85 || n == 0xA0 || n == 0x1680 ||
    (0x2000 ≤ n && n ≤ 0x200A) || n == 0x2028 || n == 0x2029 || n == 0x202F ||
    n == 0x205F || n == 0x3000

/-- The characters left when the blank ones at the end are taken away. -/
def dropBlankEnd (cs : List Char) : List Char :=
  (cs.reverse.dropWhile isBlank).reverse

/-- The text from its first to its last character that is not blank. -/
def trim (s : String) : String :=
  String.ofList (dropBlankEnd (s.toList.dropWhile isBlank))

/-- The text up to its last character that is not blank. -/
def trimEnd (s : String) : String :=
  String.ofList (dropBlankEnd s.toList)

/-- Whether every character of the text is blank; the empty text is. -/
def isBlankText (s : String) : Bool :=
  s.toList.all isBlank

end StateMachine.Text
