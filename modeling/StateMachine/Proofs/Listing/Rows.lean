import StateMachine.Listing.Item
import StateMachine.Proofs.Text.Plain

/-!
# Reading Listings Line by Line

A reader of a listing knows its lines only. A line that is a brace, or ends with a blank and a
brace, opens a block, and a line that is a closing brace closes one; `readRows` counts the open
blocks from line to line and refuses a closing brace that closes nothing. What is read is a list
of rows: each line with the number of blocks around it, its indentation and its text.

## Proof strategy

Items are written as rows (`Item.write_eq`), whatever is in them. They are read as these rows if
they are neat: each text is on one line, begins with no blank, and opens or closes a block exactly
if it is meant to (`Item.Neat.readRows`). Both go by induction on the items, with the rows that
follow as a parameter, since a block is followed by its closing brace.

## Main results

* `Item.write_eq`: to write an item is to add its rows to the page.
* `readRows_writeAll`: what is read from neat items is **their rows**; all blocks are closed, and
  rows are indented by four blanks for each block around them.
* `blocksAt_rowsAll`: of these rows, the reader finds **each item with what it encloses**.
-/

namespace StateMachine.Listing

/-! ### Rows -/

/-- A line of a listing, as a reader finds it. -/
structure Row where
  /-- The number of blocks around the line. -/
  depth : Nat
  /-- The number of blanks in front. -/
  indentation : Nat
  /-- The line without the blanks in front. -/
  text : String
  deriving DecidableEq, Repr

/-- The text opens a block. -/
def opensBlock (text : String) : Bool :=
  text = "\x7b" || [' ', '\x7b'].isSuffixOf text.toList

/-- The text closes a block. -/
def closesBlock (text : String) : Bool :=
  text = "\x7d"

/-- The row of a line. -/
def Row.ofLine (depth : Nat) (line : List Char) : Row where
  depth
  indentation := (line.takeWhile (· = ' ')).length
  text := String.ofList (line.dropWhile (· = ' '))

/-- The number of blocks around the text and behind it. There are none if the text closes a block
and none is open. -/
def depthsOf (depth : Nat) (text : String) : Option (Nat × Nat) :=
  if closesBlock text then
    match depth with
    | 0 => none
    | outer + 1 => some (outer, outer)
  else some (depth, if opensBlock text then depth + 1 else depth)

/-- Reads lines where `depth` blocks are open, and gives the number of blocks that are open behind
them. -/
def readRows (depth : Nat) : List (List Char) → Option (List Row × Nat)
  | [] => some ([], depth)
  | line :: rest =>
    (depthsOf depth (Row.ofLine depth line).text).bind fun (here, next) =>
      (readRows next rest).map fun (rows, last) => (Row.ofLine here line :: rows, last)

/-- The rows at a depth that close nothing, each with the rows that follow and stand deeper. -/
def blocksAt (depth : Nat) : List Row → List (String × List Row)
  | [] => []
  | row :: rest =>
    if row.depth = depth && !closesBlock row.text then
      (row.text, rest.takeWhile fun r => depth < r.depth) :: blocksAt depth rest
    else blocksAt depth rest

/-! ### Writing rows -/

namespace Row

/-- The row of a text that stands at a depth. -/
def ofText (depth : Nat) (text : String) : Row where
  depth
  indentation := if text = "" then 0 else 4 * depth
  text

/-- The line of a row. -/
def line (r : Row) : List Char :=
  List.replicate r.indentation ' ' ++ r.text.toList

/-- The lines of rows, each with a line feed. -/
def write (rows : List Row) : String :=
  String.ofList ((rows.map line).flatMap fun line => line ++ ['\n'])

/-- Rows are written one after the other. -/
theorem write_append (rows rows' : List Row) :
    write (rows ++ rows') = write rows ++ write rows' := by
  rw [write, List.map_append, List.flatMap_append, String.ofList_append, write, write]

end Row

/-- The indentation of a page whose levels are four blanks wide. -/
theorem Page.toList_indentation {p : Page} (hunit : p.unit = "    ") :
    p.indentation.toList = List.replicate (4 * p.depth) ' ' := by
  rw [indentation, String.toList_join, hunit]
  induction p.depth with
  | zero => rfl
  | succ depth ih =>
      have hunit : "    ".toList = List.replicate 4 ' ' := rfl
      rw [List.replicate_succ, List.flatMap_cons, ih, hunit, List.replicate_append_replicate,
        Nat.mul_succ, Nat.add_comm]

/-- The page with further rows. -/
def Page.addRows (p : Page) (rows : List Row) : Page :=
  { p with text := p.text ++ Row.write rows }

/-- Rows are added one after the other. -/
theorem Page.addRows_addRows (p : Page) (rows rows' : List Row) :
    (p.addRows rows).addRows rows' = p.addRows (rows ++ rows') := by
  simp only [addRows, Row.write_append, String.append_assoc]

/-- A line is added as the row of its text. -/
theorem Page.line_eq {p : Page} (hunit : p.unit = "    ") (s : String) :
    p.line s = p.addRows [.ofText p.depth s] := by
  have hrow : (if s = "" then "\n" else p.indentation ++ s ++ "\n") =
      Row.write [.ofText p.depth s] := by
    apply String.toList_inj.mp
    by_cases hs : s = ""
    · subst hs
      rfl
    · simp [Row.write, Row.line, Row.ofText, hs, toList_indentation hunit]
  rw [line, addRows, hrow]

mutual

/-- The rows of an item. -/
def Item.rows (depth : Nat) : Item → List Row
  | .line text => [.ofText depth text]
  | .blank => [.ofText depth ""]
  | .block opening body =>
    .ofText depth opening :: (Item.rowsAll (depth + 1) body ++ [.ofText depth "\x7d"])

/-- The rows of items. -/
def Item.rowsAll (depth : Nat) : List Item → List Row
  | [] => []
  | item :: rest => item.rows depth ++ Item.rowsAll depth rest

end

mutual

/-- **To write an item is to add its rows** to the page. -/
theorem Item.write_eq (item : Item) {p : Page} (hunit : p.unit = "    ") :
    item.write p = p.addRows (item.rows p.depth) := by
  match item with
  | .line text => rw [Item.write, Page.line_eq hunit, Item.rows]
  | .blank => rfl
  | .block opening body =>
    have hopening := Page.line_eq hunit opening
    have hbody := Item.writeAll_eq body (p := (p.addRows [.ofText p.depth opening]).indent) hunit
    have hclosing := Page.line_eq (p := (p.addRows [.ofText p.depth opening]).addRows
      (Item.rowsAll (p.depth + 1) body)) hunit "\x7d"
    calc (Item.block opening body).write p
      _ = (Item.writeAll body (p.line opening).indent).outdent.line "\x7d" := by rw [Item.write]
      _ = ((p.addRows [.ofText p.depth opening]).addRows
            (Item.rowsAll (p.depth + 1) body)).line "\x7d" := by rw [hopening, hbody]; rfl
      _ = p.addRows ((Item.block opening body).rows p.depth) := by
        rw [hclosing, Page.addRows_addRows, Page.addRows_addRows, Item.rows]
        rfl

/-- To write items is to add their rows. -/
theorem Item.writeAll_eq (items : List Item) {p : Page} (hunit : p.unit = "    ") :
    Item.writeAll items p = p.addRows (Item.rowsAll p.depth items) := by
  match items with
  | [] =>
    have hempty : p.text ++ Row.write [] = p.text := String.append_empty
    rw [Item.writeAll, Item.rowsAll, Page.addRows, hempty]
  | item :: rest =>
    have hitem := Item.write_eq item hunit
    have hrest := Item.writeAll_eq rest (p := p.addRows (item.rows p.depth)) hunit
    rw [Item.writeAll, hitem, hrest, Page.addRows_addRows, Item.rowsAll]
    rfl

end

/-! ### Neat items -/

/-- The item is written at a depth as a reader expects it: each text is on one line, begins with no
blank, and opens or closes a block if it is meant to. An empty line stands outside of all blocks. -/
inductive Item.Neat : Nat → Item → Prop
  | line {depth : Nat} {text : String} : Text.IsVisible text → '\n' ∉ text.toList →
      opensBlock text = false → closesBlock text = false → Neat depth (.line text)
  | blank : Neat 0 .blank
  | block {depth : Nat} {opening : String} {body : List Item} : Text.IsVisible opening →
      '\n' ∉ opening.toList → opensBlock opening = true →
      (∀ item ∈ body, Neat (depth + 1) item) → Neat depth (.block opening body)

/-- A text that opens a block closes none. -/
theorem closesBlock_of_opensBlock {text : String} (h : opensBlock text = true) :
    closesBlock text = false := by
  by_contra hcloses
  have htext : text = "\x7d" := by simpa [closesBlock] using hcloses
  subst htext
  revert h
  decide

/-! ### Reading rows -/

/-- The row of a visible text is read from its line. -/
theorem Row.ofLine_line {text : String} (h : Text.IsVisible text) (here depth : Nat) :
    Row.ofLine here (Row.ofText depth text).line =
      ⟨here, (Row.ofText depth text).indentation, text⟩ := by
  obtain ⟨c, hc, hne⟩ := h
  obtain ⟨rest, hchars⟩ := List.head?_eq_some_iff.mp hc
  have hblank : ∀ d ∈ List.replicate (Row.ofText depth text).indentation ' ',
      decide (d = ' ') = true := fun d hd => decide_eq_true (List.eq_of_mem_replicate hd)
  have htext : (Row.ofText depth text).text = text := rfl
  rw [Row.ofLine, Row.line, List.takeWhile_append_of_pos hblank,
    List.dropWhile_append_of_pos hblank, htext, hchars,
    List.takeWhile_cons_of_neg (by simpa using hne),
    List.dropWhile_cons_of_neg (by simpa using hne), List.append_nil, List.length_replicate,
    ← hchars, String.ofList_toList]

/-- A line with a visible text is read before the lines behind it. -/
theorem readRows_cons {text : String} {depth here next : Nat} (h : Text.IsVisible text)
    (hdepths : depthsOf depth text = some (here, next)) (rest : List (List Char)) :
    readRows depth ((Row.ofText here text).line :: rest) =
      (readRows next rest).map fun read => (.ofText here text :: read.1, read.2) := by
  have htext : (Row.ofLine depth (Row.ofText here text).line).text = text := by
    rw [Row.ofLine_line h]
  have hrow : Row.ofLine here (Row.ofText here text).line = Row.ofText here text :=
    Row.ofLine_line h here here
  rw [readRows, htext, hdepths, Option.bind_some]
  simp only [hrow]

/-- If items are read as their rows, whatever is behind them, so is a list of them. -/
theorem readRows_rowsAll_of {depth : Nat} {items : List Item}
    (h : ∀ item ∈ items, ∀ rest, readRows depth ((item.rows depth).map Row.line ++ rest) =
      (readRows depth rest).map fun read => (item.rows depth ++ read.1, read.2))
    (rest : List (List Char)) :
    readRows depth ((Item.rowsAll depth items).map Row.line ++ rest) =
      (readRows depth rest).map fun read => (Item.rowsAll depth items ++ read.1, read.2) := by
  induction items with
  | nil => simp [Item.rowsAll]
  | cons item items ih =>
      obtain ⟨hitem, hitems⟩ := List.forall_mem_cons.mp h
      rw [Item.rowsAll, List.map_append, List.append_assoc, hitem, ih hitems, Option.map_map]
      simp only [Function.comp_def, List.append_assoc]

/-- **A neat item is read as its rows**, whatever is behind it. -/
theorem Item.Neat.readRows {depth : Nat} {item : Item} (h : item.Neat depth) :
    ∀ rest, readRows depth ((item.rows depth).map Row.line ++ rest) =
      (readRows depth rest).map fun read => (item.rows depth ++ read.1, read.2) := by
  induction h with
  | @line depth text hvisible _ hopens hcloses =>
      intro rest
      have hdepths : depthsOf depth text = some (depth, depth) := by
        simp [depthsOf, hopens, hcloses]
      exact readRows_cons hvisible hdepths rest
  | blank =>
      intro rest
      rfl
  | @block depth opening body hvisible _ hopens _ ih =>
      intro rest
      have hopening : depthsOf depth opening = some (depth, depth + 1) := by
        simp [depthsOf, hopens, closesBlock_of_opensBlock hopens]
      have hclosing : depthsOf (depth + 1) "\x7d" = some (depth, depth) := rfl
      have hbrace : Text.IsVisible "\x7d" := by decide
      rw [Item.rows, List.map_cons, List.map_append, List.map_singleton, List.cons_append,
        List.append_assoc, List.singleton_append, readRows_cons hvisible hopening,
        readRows_rowsAll_of ih, readRows_cons hbrace hclosing, Option.map_map, Option.map_map]
      simp [Function.comp_def]

/-- The row of a visible text is indented by four blanks for each block around it. -/
theorem Row.indentation_ofText {text : String} (h : Text.IsVisible text) (depth : Nat) :
    (Row.ofText depth text).indentation = 4 * depth := by
  have hne : text ≠ "" := by
    rintro rfl
    revert h
    decide
  exact if_neg hne

/-- Whatever holds of the rows of all items holds of the rows of a list of them. -/
theorem forall_mem_rowsAll {depth : Nat} {items : List Item} {P : Row → Prop}
    (h : ∀ item ∈ items, ∀ r ∈ item.rows depth, P r) : ∀ r ∈ Item.rowsAll depth items, P r := by
  induction items with
  | nil => exact fun r hr => absurd hr List.not_mem_nil
  | cons item items ih =>
      obtain ⟨hitem, hitems⟩ := List.forall_mem_cons.mp h
      rw [Item.rowsAll]
      exact List.forall_mem_append.mpr ⟨hitem, ih hitems⟩

/-- **Rows of a neat item are indented by four blanks** for each block around them. -/
theorem Item.Neat.indentation {depth : Nat} {item : Item} (h : item.Neat depth) :
    ∀ r ∈ item.rows depth, r.indentation = 4 * r.depth := by
  induction h with
  | @line depth text hvisible =>
      exact List.forall_mem_singleton.mpr (Row.indentation_ofText hvisible depth)
  | blank => exact List.forall_mem_singleton.mpr rfl
  | @block depth opening body hvisible _ _ _ ih =>
      refine List.forall_mem_cons.mpr ⟨Row.indentation_ofText hvisible depth,
        List.forall_mem_append.mpr ⟨forall_mem_rowsAll ih, ?_⟩⟩
      exact List.forall_mem_singleton.mpr (Row.indentation_ofText (by decide) depth)

/-- The lines of a neat item have no line feed. -/
theorem Item.Neat.line_feed_notMem {depth : Nat} {item : Item} (h : item.Neat depth) :
    ∀ r ∈ item.rows depth, '\n' ∉ r.line := by
  have hrow : ∀ {depth text}, '\n' ∉ String.toList text → '\n' ∉ (Row.ofText depth text).line := by
    intro depth text htext hmem
    rcases List.mem_append.mp hmem with hblank | hmem
    · exact absurd (List.eq_of_mem_replicate hblank) (by decide)
    · exact htext hmem
  induction h with
  | line _ htext => exact List.forall_mem_singleton.mpr (hrow htext)
  | blank => exact List.forall_mem_singleton.mpr (by decide)
  | block _ hopening _ _ ih =>
      exact List.forall_mem_cons.mpr ⟨hrow hopening, List.forall_mem_append.mpr
        ⟨forall_mem_rowsAll ih, List.forall_mem_singleton.mpr (hrow (by decide))⟩⟩

/-- **Neat items are read as they were written.** On a fresh page, what is read from neat items is
their rows and the empty rest behind the last line feed. All blocks are closed, and each row is
indented by four blanks for each block around it. -/
theorem readRows_writeAll {items : List Item} (h : ∀ item ∈ items, item.Neat 0) :
    readRows 0 (Text.splitAtChar '\n' (Item.writeAll items {}).text.toList) =
        some (Item.rowsAll 0 items ++ [⟨0, 0, ""⟩], 0) ∧
      ∀ r ∈ Item.rowsAll 0 items ++ [⟨0, 0, ""⟩], r.indentation = 4 * r.depth := by
  constructor
  · have hpage : (Item.writeAll items {}).text.toList =
        ((Item.rowsAll 0 items).map Row.line).flatMap fun line => line ++ ['\n'] := by
      rw [Item.writeAll_eq items rfl]
      simp [Page.addRows, Row.write]
    have hlines : ∀ line ∈ (Item.rowsAll 0 items).map Row.line, '\n' ∉ line :=
      List.forall_mem_map.mpr (forall_mem_rowsAll fun item hitem => (h item hitem).line_feed_notMem)
    rw [hpage, Text.splitAtChar_flatMap hlines,
      readRows_rowsAll_of (fun item hitem => (h item hitem).readRows)]
    rfl
  · exact List.forall_mem_append.mpr ⟨forall_mem_rowsAll fun item hitem =>
      (h item hitem).indentation, List.forall_mem_singleton.mpr rfl⟩

/-! ### What items enclose -/

/-- The line that an item begins with. -/
def Item.opening : Item → String
  | .line text => text
  | .blank => ""
  | .block opening _ => opening

/-- The items that an item encloses. -/
def Item.body : Item → List Item
  | .line _ => []
  | .blank => []
  | .block _ body => body

mutual

/-- The rows of an item stand at its depth or deeper. -/
theorem Item.le_depth (item : Item) (depth : Nat) : ∀ r ∈ item.rows depth, depth ≤ r.depth := by
  match item with
  | .line text => exact List.forall_mem_singleton.mpr (Nat.le_refl depth)
  | .blank => exact List.forall_mem_singleton.mpr (Nat.le_refl depth)
  | .block opening body =>
    have hbody := Item.le_depth_all body (depth + 1)
    exact List.forall_mem_cons.mpr ⟨Nat.le_refl depth, List.forall_mem_append.mpr
      ⟨fun r hr => Nat.le_of_succ_le (hbody r hr),
        List.forall_mem_singleton.mpr (Nat.le_refl depth)⟩⟩

/-- So do the rows of items. -/
theorem Item.le_depth_all (items : List Item) (depth : Nat) :
    ∀ r ∈ Item.rowsAll depth items, depth ≤ r.depth := by
  match items with
  | [] => exact fun r hr => absurd hr List.not_mem_nil
  | item :: rest =>
    exact List.forall_mem_append.mpr ⟨Item.le_depth item depth, Item.le_depth_all rest depth⟩

end

/-- Rows that stand deeper are passed over. -/
theorem blocksAt_append_of_lt {depth : Nat} {rows : List Row} (h : ∀ r ∈ rows, depth < r.depth)
    (rest : List Row) : blocksAt depth (rows ++ rest) = blocksAt depth rest := by
  induction rows with
  | nil => rfl
  | cons r rows ih =>
      obtain ⟨hr, hrows⟩ := List.forall_mem_cons.mp h
      have hne : ¬ r.depth = depth := by omega
      rw [List.cons_append, blocksAt, decide_eq_false hne, ih hrows]
      rfl

/-- Behind the rows of items nothing stands deeper than them, unless it does behind all of them. -/
theorem takeWhile_rowsAll {depth : Nat} (items : List Item) {rest : List Row}
    (hrest : rest.takeWhile (fun r => depth < r.depth) = []) :
    (Item.rowsAll depth items ++ rest).takeWhile (fun r => depth < r.depth) = [] := by
  cases items with
  | nil => exact hrest
  | cons item items => cases item <;> simp [Item.rowsAll, Item.rows, Row.ofText]

/-- **The reader finds each item with what it encloses.** -/
theorem blocksAt_rowsAll {depth : Nat} {items : List Item} (h : ∀ item ∈ items, item.Neat depth)
    {rest : List Row} (hrest : rest.takeWhile (fun r => depth < r.depth) = []) :
    blocksAt depth (Item.rowsAll depth items ++ rest) =
      items.map (fun item => (item.opening, Item.rowsAll (depth + 1) item.body)) ++
        blocksAt depth rest := by
  induction items with
  | nil => rfl
  | cons item items ih =>
      obtain ⟨hitem, hitems⟩ := List.forall_mem_cons.mp h
      have hbehind := takeWhile_rowsAll items hrest
      -- nothing is enclosed by a row that the next row at its depth follows directly
      have hline : ∀ {text}, closesBlock text = false →
          blocksAt depth (.ofText depth text :: (Item.rowsAll depth items ++ rest)) =
            (text, []) :: blocksAt depth (Item.rowsAll depth items ++ rest) := by
        intro text hcloses
        simp [blocksAt, Row.ofText, hcloses, hbehind]
      rw [Item.rowsAll, List.append_assoc, List.map_cons, List.cons_append, ← ih hitems]
      cases hitem with
      | line _ _ _ hcloses => exact hline hcloses
      | blank => exact hline rfl
      | @block _ opening body _ _ hopens _ =>
          have hdeeper : ∀ r ∈ Item.rowsAll (depth + 1) body, depth < r.depth :=
            Item.le_depth_all body (depth + 1)
          have hbrace : closesBlock (Row.ofText depth "\x7d").text = true := rfl
          have hskip : blocksAt depth (.ofText depth "\x7d" :: (Item.rowsAll depth items ++ rest)) =
              blocksAt depth (Item.rowsAll depth items ++ rest) := by
            simp [blocksAt, hbrace]
          have hinner : (Item.rowsAll (depth + 1) body ++
              .ofText depth "\x7d" :: (Item.rowsAll depth items ++ rest)).takeWhile
                (fun r => depth < r.depth) = Item.rowsAll (depth + 1) body := by
            rw [List.takeWhile_append_of_pos (by simpa using hdeeper),
              List.takeWhile_cons_of_neg (by simp [Row.ofText]), List.append_nil]
          have hopening : (Row.ofText depth opening).text = opening := rfl
          rw [Item.rows, List.cons_append, List.append_assoc, List.singleton_append, blocksAt,
            hinner, hopening, closesBlock_of_opensBlock hopens,
            blocksAt_append_of_lt hdeeper, hskip]
          simp [Row.ofText, Item.opening, Item.body]

end StateMachine.Listing
