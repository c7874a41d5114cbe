/-!
# Ranges of Code Points

A character class beyond ASCII is a table of closed ranges of code points in rising order.
-/

namespace StateMachine.Text

/-- A closed range of code points. -/
abbrev CodeRange := UInt32 × UInt32

/-- Whether the code point of `c` lies in one of the ranges. -/
def inRanges (ranges : Array CodeRange) (c : Char) : Bool :=
  ranges.any fun (first, last) => first ≤ c.val && c.val ≤ last

end StateMachine.Text
