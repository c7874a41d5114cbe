/-!
# Separators

Qualified names are written `Map::State`, package names with `::` or `.` between their
segments, and raw text is a sequence of lines. All three are read from left to right: the
first `::` separates, so `a:::b` is `a` and `:b`.

## Main definitions

* `cutAtColons`: what stands before and after the first `::`.
* `splitAtColons`, `splitAtChar`: all pieces between separators, empty ones included.
* `lines`: the lines of a text without their line ends.
-/

namespace StateMachine.Text

/-- What stands before and after the first `::`, or `none` if there is no `::`. -/
def cutAtColons : List Char → Option (List Char × List Char)
  | [] => none
  | ':' :: ':' :: rest => some ([], rest)
  | c :: rest => (cutAtColons rest).map fun (before, after) => (c :: before, after)

/-- Puts `c` in front of the first piece. -/
def consToFirst (c : Char) : List (List Char) → List (List Char)
  | [] => [[c]]
  | piece :: pieces => (c :: piece) :: pieces

/-- The pieces between the occurrences of `::`; never empty. -/
def splitAtColons : List Char → List (List Char)
  | [] => [[]]
  | ':' :: ':' :: rest => [] :: splitAtColons rest
  | c :: rest => consToFirst c (splitAtColons rest)

/-- The pieces between the occurrences of `separator`; never empty. -/
def splitAtChar (separator : Char) : List Char → List (List Char)
  | [] => [[]]
  | c :: rest =>
    if c = separator then [] :: splitAtChar separator rest
    else consToFirst c (splitAtChar separator rest)

/-- A line that was ended by a line feed, without the carriage return before it. -/
def dropCarriageReturn (line : List Char) : List Char :=
  if line.getLast? = some '\r' then line.dropLast else line

/-- The lines among the pieces between line feeds. The last piece was not ended by a line
feed: it is a line only if it is not empty, and a carriage return in it stays. -/
def linesOfPieces : List (List Char) → List (List Char)
  | [] => []
  | [last] => if last.isEmpty then [] else [last]
  | line :: rest => dropCarriageReturn line :: linesOfPieces rest

/-- The lines of a text. Each ends with a line feed, or a carriage return and a line feed,
or with the text; neither is part of the line. -/
def lines (s : String) : List String :=
  (linesOfPieces (splitAtChar '\n' s.toList)).map String.ofList

/-- Cutting at the first `::` loses nothing but the separator. -/
theorem eq_append_of_cutAtColons {cs before after : List Char}
    (h : cutAtColons cs = some (before, after)) : cs = before ++ ':' :: ':' :: after := by
  fun_induction cutAtColons cs generalizing before with
  | case1 => simp at h
  | case2 rest =>
    simp only [Option.some.injEq, Prod.mk.injEq] at h
    simp [← h.1, ← h.2]
  | case3 c rest _ ih =>
    obtain ⟨⟨b, a⟩, hcut, heq⟩ := Option.map_eq_some_iff.1 h
    simp only [Prod.mk.injEq] at heq
    obtain ⟨rfl, rfl⟩ := heq
    simp [← ih hcut]

end StateMachine.Text
