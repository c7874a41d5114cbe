/-!
# Indented Pages

A page collects lines of text. Each line is indented by the page's unit, once for each
level of depth; an empty line is not indented. The depth never falls below zero.
-/

namespace StateMachine.Listing

/-- Text under construction. -/
structure Page where
  /-- What one level of depth puts before a line. -/
  unit : String := "    "
  depth : Nat := 0
  text : String := ""
  deriving DecidableEq, Repr

namespace Page

/-- The indentation of a line at the page's depth. -/
def indentation (p : Page) : String :=
  String.join (List.replicate p.depth p.unit)

/-- The page with one more line. -/
def line (p : Page) (s : String) : Page :=
  { p with text := p.text ++ (if s = "" then "\n" else p.indentation ++ s ++ "\n") }

/-- The page with an empty line. -/
def blank (p : Page) : Page :=
  { p with text := p.text ++ "\n" }

/-- One level deeper. -/
def indent (p : Page) : Page :=
  { p with depth := p.depth + 1 }

/-- One level less deep, but not below zero. -/
def outdent (p : Page) : Page :=
  { p with depth := p.depth - 1 }

end Page

end StateMachine.Listing
