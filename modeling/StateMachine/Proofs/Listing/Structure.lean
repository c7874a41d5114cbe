import Mathlib.Tactic.MkIffOfInductiveProp
import StateMachine.Proofs.Listing.Guard
import StateMachine.Proofs.Listing.Rows

/-!
# What a Listing Shows

A reader who knows the lines of a listing and nothing else can tell which states it shows, and of
each state its entry and exit actions, its transitions, guards and their actions: the blocks of a
listing match, it is indented by them, and each state has one block, in which each guard has a line
and its actions stand one level deeper. This takes a machine whose names are identifiers and whose
other texts are plain, since no text is escaped.

## Proof strategy

The items of such a machine are neat (`neat_items`), so they are read as their rows. The outer
blocks of these rows are the items, and those in the block of a state are the lines of its
transitions and guards (`blocksAt_rowsAll`). What is not the block of a state is a caption
(`Item.IsCaption`), in which no such block is found; but the captions in front of it are its
heading, which the reader carries along (`Heading.behind`). So the blocks of states are found where
they are written, by induction on the lists of maps and states (`headedBlocks_flatMap`), and the
entries in them by induction on the list of transitions.

## Main results

* `headedBlocks_items`: of the items of a machine, the blocks of **its states** are found, each
  under the name of its state and its **entry and exit actions**.
* `blocksAt_transitionItems`: in such a block, the **transitions, guards and actions** are found.
* `listing_shows_outline`: so is all of it in the text of a listing, **whose nesting is balanced and
  which is indented by four blanks** a block.
-/

namespace StateMachine

/-! ### Plainly written machines -/

/-- The name of the action is an identifier, and its arguments are plain. -/
@[mk_iff]
structure Action.IsPlain (a : Action) : Prop where
  name : Text.IsIdentifier a.name
  arguments : ∀ s ∈ a.arguments, Text.IsPlain s

/-- The texts of the guard are plain, and so are its actions. -/
@[mk_iff]
structure Guard.IsPlain (g : Guard) : Prop where
  condition : Text.IsPlain g.condition
  popArguments : ∀ s ∈ g.popArguments, Text.IsPlain s
  actions : ∀ a ∈ g.actions, a.IsPlain

/-- The parameters of the transition are plain, and so are its guards. -/
@[mk_iff]
structure Transition.IsPlain (t : Transition) : Prop where
  parameters : ∀ p ∈ t.parameters, Text.IsPlain p.name ∧ Text.IsPlain p.type
  guards : ∀ g ∈ t.guards, g.IsPlain

/-- The actions and transitions of the state are plain. -/
@[mk_iff]
structure State.IsPlain (s : State) : Prop where
  entryActions : ∀ a ∈ s.entryActions, a.IsPlain
  exitActions : ∀ a ∈ s.exitActions, a.IsPlain
  transitions : ∀ t ∈ s.transitions, t.IsPlain

/-- The machine has no raw source text, its names are identifiers and its other texts are plain. -/
structure Machine.IsPlain (m : Machine) : Prop where
  source : m.source = none
  names : m.NamedByIdentifiers
  context : Text.IsPlain m.context
  package : ∀ s ∈ m.package, Text.IsPlain s
  header : ∀ s ∈ m.header, Text.IsPlain s
  includes : ∀ s ∈ m.includes, Text.IsPlain s
  imports : ∀ s ∈ m.imports, Text.IsPlain s
  declarations : ∀ s ∈ m.declarations, Text.IsPlain s
  states : ∀ map ∈ m.maps, ∀ s ∈ map.allStates, s.IsPlain

instance (a : Action) : Decidable a.IsPlain :=
  decidable_of_iff _ (Action.isPlain_iff a).symm

instance (g : Guard) : Decidable g.IsPlain :=
  decidable_of_iff _ (Guard.isPlain_iff g).symm

instance (t : Transition) : Decidable t.IsPlain :=
  decidable_of_iff _ (Transition.isPlain_iff t).symm

instance (s : State) : Decidable s.IsPlain :=
  decidable_of_iff _ (State.isPlain_iff s).symm

namespace Listing

/-! ### Outlines -/

/-- A line in the block of a state, and the lines one level deeper behind it. -/
structure Entry where
  head : String
  inner : List String
  deriving DecidableEq, Repr

/-- The entry of a line and the rows that it encloses. -/
def Entry.ofBlock (block : String × List Row) : Entry where
  head := block.1
  inner := block.2.map Row.text

/-- What stands in front of the block of a state. -/
structure Heading where
  /-- The last line that opens nothing. -/
  state : String := ""
  /-- The lines of the blocks behind it that `Entry` opens. -/
  entry : List String := []
  /-- The lines of those that `Exit` opens. -/
  exit : List String := []
  deriving DecidableEq, Repr

/-- What a listing shows of a state. -/
structure Outline extends Heading where
  entries : List Entry
  deriving DecidableEq, Repr

/-- The heading behind a line and the rows that it encloses. -/
def Heading.behind (front : Heading) : String × List Row → Heading
  | (text, inner) =>
    if text = "Entry \x7b" then { front with entry := front.entry ++ inner.map Row.text }
    else if text = "Exit \x7b" then { front with exit := front.exit ++ inner.map Row.text }
    else if opensBlock text then front
    else { state := text }

/-- Finds the blocks that are opened by a brace alone, each with its heading. -/
def headedBlocks (front : Heading) : List (String × List Row) → List (Heading × List Row)
  | [] => []
  | block :: rest =>
    if block.1 = "\x7b" then (front, block.2) :: headedBlocks (front.behind block) rest
    else headedBlocks (front.behind block) rest

/-- Reads the outlines of the states from the rows of a listing. -/
def readOutlines (rows : List Row) : List Outline :=
  (headedBlocks {} (blocksAt 0 rows)).map fun (heading, body) =>
    { heading with entries := (blocksAt 1 body).map Entry.ofBlock }

/-- A transition is one line if only names are shown or if it has no guards. Otherwise each guard
has a line, and behind it one line for each action. -/
def transitionEntries (level : Detail) (t : Transition) : List Entry :=
  if level = .names ∨ t.guards = [] then [{ head := signatureText level t, inner := [] }]
  else t.guards.map fun g =>
    { head := signatureText level t ++ " " ++ guardText level g ++
        (if g.actions = [] then " \x7b\x7d" else " \x7b")
      inner := g.actions.map fun a => a.text ++ ";" }

/-- The name of a state and, at full detail, its entry and exit actions, one line for each. -/
def stateHeading (level : Detail) (s : State) : Heading where
  state := s.className
  entry := if level = .full then s.entryActions.map fun a => a.text ++ ";" else []
  exit := if level = .full then s.exitActions.map fun a => a.text ++ ";" else []

/-- The heading of a state, and its transitions in order. -/
def stateOutline (level : Detail) (s : State) : Outline where
  toHeading := stateHeading level s
  entries := s.transitions.flatMap (transitionEntries level)

/-! ### Plain texts are neat -/

/-- A plain text opens no block. -/
theorem opensBlock_of_isPlain {text : String} (h : Text.IsPlain text) :
    opensBlock text = false := by
  by_contra hopens
  rw [Bool.not_eq_false, opensBlock, Bool.or_eq_true] at hopens
  have hmem : '\x7b' ∈ text.toList := by
    rcases hopens with heq | hsuffix
    · rw [of_decide_eq_true heq]
      decide
    · exact (List.isSuffixOf_iff_suffix.mp hsuffix).subset (by decide)
  exact (h _ hmem).2.1 rfl

/-- It closes none, either. -/
theorem closesBlock_of_isPlain {text : String} (h : Text.IsPlain text) :
    closesBlock text = false := by
  by_contra hcloses
  have htext : text = "\x7d" := by simpa [closesBlock] using hcloses
  subst htext
  revert h
  decide

/-- A plain text has no line feed. -/
theorem line_feed_notMem_of_isPlain {text : String} (h : Text.IsPlain text) :
    '\n' ∉ text.toList := fun hmem => (h _ hmem).1 rfl

/-- A visible plain text is a neat line. -/
theorem neat_line {text : String} {depth : Nat} (hvisible : Text.IsVisible text)
    (hplain : Text.IsPlain text) : (Item.line text).Neat depth :=
  .line hvisible (line_feed_notMem_of_isPlain hplain) (opensBlock_of_isPlain hplain)
    (closesBlock_of_isPlain hplain)

/-- A text with an empty block behind it neither opens nor closes a block. -/
theorem opensBlock_append_empty (text : String) :
    opensBlock (text ++ " \x7b\x7d") = false ∧ closesBlock (text ++ " \x7b\x7d") = false := by
  have hlength : ∀ brace : String, brace.length = 1 → text ++ " \x7b\x7d" ≠ brace := by
    intro brace hbrace htext
    have hsize := congrArg String.length htext
    have hempty : " \x7b\x7d".length = 3 := rfl
    rw [String.length_append, hbrace, hempty] at hsize
    omega
  constructor
  · have hend : [' ', '\x7b'].isSuffixOf (text ++ " \x7b\x7d").toList = false := by
      simp [List.isSuffixOf, List.isPrefixOf]
    rw [opensBlock, hend, Bool.or_false, decide_eq_false (hlength "\x7b" rfl)]
  · simp [closesBlock, hlength "\x7d" rfl]

/-- A text with a blank and a brace behind it opens a block. -/
theorem opensBlock_append_brace (text : String) : opensBlock (text ++ " \x7b") = true := by
  simp [opensBlock, List.isSuffixOf]

/-- A visible plain text in front of neat items makes a neat block of them. -/
theorem neat_braced {text : String} {depth : Nat} {body : List Item}
    (hvisible : Text.IsVisible text) (hplain : Text.IsPlain text)
    (hbody : ∀ item ∈ body, item.Neat (depth + 1)) : (Item.braced text body).Neat depth := by
  have hline := line_feed_notMem_of_isPlain hplain
  unfold Item.braced
  split_ifs
  · exact .line (hvisible.append _) (by simpa using hline) (opensBlock_append_empty text).1
      (opensBlock_append_empty text).2
  · exact .block (hvisible.append _) (by simpa using hline) (opensBlock_append_brace text) hbody

/-- The item is neat outside of all blocks, and does not begin with a brace alone, as the block of
a state does. -/
structure Item.IsCaption (item : Item) : Prop where
  neat : item.Neat 0
  opening : item.opening ≠ "\x7b"

/-- An empty line is a caption. -/
theorem Item.IsCaption.blank : Item.blank.IsCaption :=
  ⟨.blank, by decide⟩

/-- So is a visible plain text. -/
theorem Item.IsCaption.line {text : String} (hvisible : Text.IsVisible text)
    (hplain : Text.IsPlain text) : (Item.line text).IsCaption where
  neat := neat_line hvisible hplain
  opening := fun htext => by
    have hopens := opensBlock_of_isPlain hplain
    rw [show text = "\x7b" from htext] at hopens
    cases hopens

/-! ### The texts of plain machines -/

/-- A reference of identifiers is plain. -/
theorem isPlain_reference {r : Reference} (h : r.IsIdentifier) : Text.IsPlain r.text := fun _ hc =>
  ⟨h.ne_of_mem_text hc (by decide) (by decide), h.ne_of_mem_text hc (by decide) (by decide),
    h.ne_of_mem_text hc (by decide) (by decide)⟩

/-- A transfer is plain, if its names are identifiers and its arguments are plain. -/
theorem isPlain_transferText {t : Transfer} (h : t.NamedByIdentifiers) {arguments : List String}
    (harguments : ∀ s ∈ arguments, Text.IsPlain s) :
    Text.IsPlain (Guard.transferText t arguments) := by
  cases t with
  | set target =>
      cases target with
      | nil => exact (by decide : Text.IsPlain EndState.nilWord)
      | named r => exact isPlain_reference (h r rfl)
  | push target pushed =>
      have hpushed := isPlain_reference h.2
      cases target with
      | nil => simp only [Guard.transferText, Text.isPlain_append, hpushed]; decide
      | named r =>
          have hr := isPlain_reference (h.1 r rfl)
          simp only [Guard.transferText, Text.isPlain_append, hr, hpushed, true_and]
          decide
  | pop transition _ =>
      have hinner : Text.IsPlain (Guard.popText transition arguments) := by
        cases transition with
        | none => exact (by decide : Text.IsPlain "")
        | some name =>
            exact Text.isPlain_intercalate (by decide)
              (List.forall_mem_cons.mpr ⟨(h name rfl).isPlain, harguments⟩)
      simp only [Guard.transferText, Text.isPlain_append, hinner]
      decide

/-- The text of a plain guard is plain at every level. -/
theorem isPlain_guardText {g : Guard} (hg : g.IsPlain) (h : g.transfer.NamedByIdentifiers)
    (level : Detail) : Text.IsPlain (guardText level g) := by
  have hcondition : Text.IsPlain g.conditionText := by
    unfold Guard.conditionText
    split_ifs
    · decide
    · simp only [Text.isPlain_append, hg.condition]
      decide
  unfold guardText
  split_ifs
  · exact Text.isPlain_append.mpr ⟨hcondition, isPlain_transferText h hg.popArguments⟩
  · exact Text.isPlain_append.mpr ⟨hcondition, isPlain_transferText h (by simp)⟩

/-- The text of a plain action is visible and plain. -/
theorem isPlain_actionText {a : Action} (ha : a.IsPlain) :
    Text.IsVisible a.text ∧ Text.IsPlain a.text := by
  have hfirst : Text.IsPlain (a.arguments.headD "") := by
    cases harguments : a.arguments with
    | nil => decide
    | cons s rest => exact ha.arguments s (harguments ▸ List.mem_cons_self)
  have hall : Text.IsPlain (", ".intercalate a.arguments) :=
    Text.isPlain_intercalate (by decide) ha.arguments
  unfold Action.text
  split_ifs
  · refine ⟨(ha.name.isVisible.append _).append _, ?_⟩
    simp only [Text.isPlain_append, ha.name.isPlain, hfirst, true_and, and_true]
    decide
  · refine ⟨((ha.name.isVisible.append _).append _).append _, ?_⟩
    simp only [Text.isPlain_append, ha.name.isPlain, hall, true_and]
    decide

/-- The signature of a plain transition is visible and plain. -/
theorem isPlain_signatureText {t : Transition} (ht : t.IsPlain) (hname : Text.IsIdentifier t.name)
    (level : Detail) :
    Text.IsVisible (signatureText level t) ∧ Text.IsPlain (signatureText level t) := by
  have hparameters : Text.IsPlain t.parametersText := by
    refine Text.isPlain_intercalate (by decide) (List.forall_mem_map.mpr fun p hp => ?_)
    obtain ⟨hpname, htype⟩ := ht.parameters p hp
    simp only [Parameter.text, Text.isPlain_append, hpname, htype, true_and, and_true]
    decide
  unfold signatureText
  split_ifs
  · refine ⟨((hname.isVisible.append _).append _).append _, ?_⟩
    simp only [Text.isPlain_append, hname.isPlain, hparameters, true_and]
    decide
  · exact ⟨hname.isVisible, hname.isPlain⟩

/-! ### The items of plain machines -/

/-- What holds of items holds of them where they are shown on a condition. -/
theorem forall_mem_ite {c : Prop} [Decidable c] {items : List Item} {P : Item → Prop}
    (h : ∀ item ∈ items, P item) : ∀ item ∈ (if c then items else []), P item := by
  split_ifs
  · exact h
  · exact fun item hitem => absurd hitem List.not_mem_nil

/-- Plain actions are neat lines. -/
theorem neat_actionItems {actions : List Action} (h : ∀ a ∈ actions, a.IsPlain) (depth : Nat) :
    ∀ item ∈ actionItems actions, item.Neat depth := by
  refine List.forall_mem_map.mpr fun a ha => ?_
  obtain ⟨hvisible, hplain⟩ := isPlain_actionText (h a ha)
  exact neat_line (hvisible.append _) (Text.isPlain_append.mpr ⟨hplain, by decide⟩)

/-- A plain transition is neat. -/
theorem neat_transitionItems {t : Transition} (ht : t.IsPlain) (hname : Text.IsIdentifier t.name)
    (htransfers : ∀ g ∈ t.guards, g.transfer.NamedByIdentifiers) (level : Detail) (depth : Nat) :
    ∀ item ∈ transitionItems level t, item.Neat depth := by
  obtain ⟨hvisible, hplain⟩ := isPlain_signatureText ht hname level
  unfold transitionItems
  split_ifs
  · exact List.forall_mem_singleton.mpr (neat_line hvisible hplain)
  · refine List.forall_mem_map.mpr fun g hg => neat_braced ((hvisible.append _).append _) ?_
      (neat_actionItems (ht.guards g hg).actions _)
    have hguard := isPlain_guardText (ht.guards g hg) (htransfers g hg) level
    simp only [Text.isPlain_append, hplain, hguard, true_and, and_true]
    decide

/-- Plain entry or exit actions stand in a caption. -/
theorem isCaption_boundaryItems {opening : String} (hvisible : Text.IsVisible opening)
    (hplain : Text.IsPlain opening) {actions : List Action} (h : ∀ a ∈ actions, a.IsPlain) :
    ∀ item ∈ boundaryItems opening actions, item.IsCaption := by
  cases actions with
  | nil => exact fun item hitem => absurd hitem List.not_mem_nil
  | cons a rest =>
      refine List.forall_mem_singleton.mpr
        ⟨neat_braced hvisible hplain (neat_actionItems h _), ?_⟩
      -- the word in front of the brace has a character
      intro hbrace
      obtain ⟨c, hc, -⟩ := hvisible
      have hlength : (opening ++ " \x7b").toList.length = 1 := by
        rw [show opening ++ " \x7b" = "\x7b" from hbrace]
        rfl
      simp at hlength

/-- The entry and exit actions of a plain state, where they are shown, are captions. -/
theorem isCaption_boundary {s : State} (hs : s.IsPlain) (level : Detail) :
    ∀ item ∈ (if level = .full then
        boundaryItems "Entry" s.entryActions ++ boundaryItems "Exit" s.exitActions else []),
      item.IsCaption := by
  refine forall_mem_ite (List.forall_mem_append.mpr ⟨?_, ?_⟩)
  · exact isCaption_boundaryItems (by decide) (by decide) hs.entryActions
  · exact isCaption_boundaryItems (by decide) (by decide) hs.exitActions

/-- A plain state is neat. -/
theorem neat_stateItems {s : State} (hs : s.IsPlain) (hclass : Text.IsIdentifier s.className)
    {level : Detail}
    (hbody : ∀ item ∈ s.transitions.flatMap (transitionItems level), item.Neat 1) :
    ∀ item ∈ stateItems level s, item.Neat 0 := by
  refine List.forall_mem_append.mpr ⟨List.forall_mem_append.mpr ⟨?_, ?_⟩, ?_⟩
  · exact List.forall_mem_singleton.mpr (neat_line hclass.isVisible hclass.isPlain)
  · exact fun item hitem => (isCaption_boundary hs level item hitem).neat
  · exact List.forall_mem_singleton.mpr (.block (by decide) (by decide) (by decide) hbody)

/-- Declarations of plain values are captions. -/
theorem isCaption_declarationItems {keyword : String} (hvisible : Text.IsVisible keyword)
    (hplain : Text.IsPlain keyword) {values : List String} (h : ∀ s ∈ values, Text.IsPlain s) :
    ∀ item ∈ declarationItems keyword values, item.IsCaption := by
  refine List.forall_mem_map.mpr fun s hs => .line ((hvisible.append _).append _) ?_
  simp only [Text.isPlain_append, hplain, h s hs, true_and, and_true]
  decide

/-- The states of a map stand between captions. -/
theorem exists_captions_mapItems {m : Map} (hname : Text.IsIdentifier m.name)
    (hnames : ∀ s ∈ m.allStates, ∀ t ∈ s.transitions, Text.IsIdentifier t.name)
    (level : Detail) : ∃ front back, (∀ item ∈ front, item.IsCaption) ∧
      (∀ item ∈ back, item.IsCaption) ∧
        mapItems level m = front ++ (m.allStates.flatMap (stateItems level) ++ back) := by
  have hborder : (Item.line "%%").IsCaption := .line (by decide) (by decide)
  have hheading : ∀ item ∈ [Item.blank, .line ("%map " ++ m.name), .line "%%"],
      item.IsCaption := by
    have hvisible : Text.IsVisible "%map " := by decide
    have hmap : (Item.line ("%map " ++ m.name)).IsCaption :=
      .line (hvisible.append _) (Text.isPlain_append.mpr ⟨by decide, hname.isPlain⟩)
    exact List.forall_mem_cons.mpr ⟨.blank, List.forall_mem_cons.mpr
      ⟨hmap, List.forall_mem_singleton.mpr hborder⟩⟩
  have hremarks : ∀ item ∈ (if level = .full then m.undefinedDefaultTransitions.map derivedItem
      else []), item.IsCaption := by
    refine forall_mem_ite (List.forall_mem_map.mpr fun t ht => ?_)
    obtain ⟨-, s, hs, hdeclared⟩ := Map.mem_undefinedDefaultTransitions ht
    have hplain := (hnames s (List.mem_append_right _ hs) t hdeclared).isPlain
    have hvisible : Text.IsVisible "// Default::" := by decide
    refine .line ((hvisible.append _).append _) ?_
    simp only [Text.isPlain_append, hplain, and_true]
    split_ifs <;> decide
  refine ⟨_, _, hheading, List.forall_mem_append.mpr
    ⟨hremarks, List.forall_mem_singleton.mpr hborder⟩, ?_⟩
  simp only [mapItems, List.append_assoc]

/-- The lines in front of the maps are captions. -/
theorem isCaption_headItems {m : Machine} (hm : m.IsPlain) {start : String}
    (hstart : Text.IsPlain start) (level : Detail) :
    ∀ item ∈ headItems level m start, item.IsCaption := by
  have hsource : (if level = Detail.full then sourceItems m.source else []) = [] := by
    rw [hm.source]
    exact ite_self _
  have hfull : ∀ item ∈ (if level = .full then declarationItems "%header" m.header.toList ++
      declarationItems "%include" m.includes ++ declarationItems "%import" m.imports ++
        declarationItems "%declare" m.declarations else []), item.IsCaption := by
    refine forall_mem_ite (List.forall_mem_append.mpr ⟨List.forall_mem_append.mpr
      ⟨List.forall_mem_append.mpr ⟨?_, ?_⟩, ?_⟩, ?_⟩)
    · exact isCaption_declarationItems (by decide) (by decide) (by simpa using hm.header)
    · exact isCaption_declarationItems (by decide) (by decide) hm.includes
    · exact isCaption_declarationItems (by decide) (by decide) hm.imports
    · exact isCaption_declarationItems (by decide) (by decide) hm.declarations
  unfold headItems
  simp only [hsource, List.nil_append]
  refine List.forall_mem_append.mpr ⟨List.forall_mem_append.mpr ⟨List.forall_mem_append.mpr
    ⟨?_, ?_⟩, hfull⟩, ?_⟩
  · exact isCaption_declarationItems (by decide) (by decide)
      (List.forall_mem_singleton.mpr hm.context)
  · exact isCaption_declarationItems (by decide) (by decide) (by simpa using hm.package)
  · exact isCaption_declarationItems (by decide) (by decide) (List.forall_mem_singleton.mpr hstart)

/-- The remarks on unreachable states are captions. -/
theorem isCaption_unreachableItems {unreachable : List String}
    (h : ∀ s ∈ unreachable, Text.IsPlain s) (level : Detail) :
    ∀ item ∈ unreachableItems level unreachable, item.IsCaption := by
  have hremarks : ∀ item ∈ declarationItems "// unreachable:" unreachable, item.IsCaption :=
    isCaption_declarationItems (by decide) (by decide) h
  exact forall_mem_ite (List.forall_mem_cons.mpr ⟨.blank, hremarks⟩)

/-! ### Outlines of items -/

/-- Items with the rows that they enclose. -/
def enclosed (depth : Nat) (items : List Item) : List (String × List Row) :=
  items.map fun item => (item.opening, Item.rowsAll (depth + 1) item.body)

/-- What is enclosed by items that follow each other. -/
theorem enclosed_append (depth : Nat) (items items' : List Item) :
    enclosed depth (items ++ items') = enclosed depth items ++ enclosed depth items' :=
  List.map_append

/-- The block of a state, under its heading. -/
def stateBlock (level : Detail) (s : State) : Heading × List Row :=
  (stateHeading level s, Item.rowsAll 1 (s.transitions.flatMap (transitionItems level)))

/-- Blocks are found one after the other, each under what has been read in front of it. -/
theorem headedBlocks_append (front : Heading) (blocks blocks' : List (String × List Row)) :
    headedBlocks front (blocks ++ blocks') =
      headedBlocks front blocks ++ headedBlocks (blocks.foldl Heading.behind front) blocks' := by
  induction blocks generalizing front with
  | nil => rfl
  | cons block rest ih =>
      by_cases hbrace : block.1 = "\x7b"
      · simp [headedBlocks, hbrace, ih]
      · simp [headedBlocks, hbrace, ih]

/-- Captions have no block of a state. -/
theorem headedBlocks_captions {items : List Item} (h : ∀ item ∈ items, item.IsCaption)
    (front : Heading) : headedBlocks front (enclosed 0 items) = [] := by
  induction items generalizing front with
  | nil => rfl
  | cons item rest ih =>
      obtain ⟨hitem, hrest⟩ := List.forall_mem_cons.mp h
      rw [enclosed, List.map_cons, headedBlocks, if_neg hitem.opening]
      exact ih hrest _

/-- If the blocks in each list of items are known, so are those in all of them. -/
theorem headedBlocks_flatMap {α : Type} {l : List α} {f : α → List Item}
    {found : α → List (Heading × List Row)}
    (h : ∀ a ∈ l, ∀ front, headedBlocks front (enclosed 0 (f a)) = found a) (front : Heading) :
    headedBlocks front (enclosed 0 (l.flatMap f)) = l.flatMap found := by
  induction l generalizing front with
  | nil => rfl
  | cons a rest ih =>
      obtain ⟨ha, hrest⟩ := List.forall_mem_cons.mp h
      rw [List.flatMap_cons, enclosed_append, headedBlocks_append, ha, ih hrest, List.flatMap_cons]

/-- The lines that actions are listed in. -/
theorem text_rowsAll_actionItems (actions : List Action) (depth : Nat) :
    (Item.rowsAll depth (actionItems actions)).map Row.text =
      actions.map fun a => a.text ++ ";" := by
  induction actions with
  | nil => rfl
  | cons a rest ih =>
      have hrows : Item.rowsAll depth (actionItems (a :: rest)) =
          .ofText depth (a.text ++ ";") :: Item.rowsAll depth (actionItems rest) := rfl
      rw [hrows, List.map_cons, List.map_cons, ih]
      rfl

/-- Behind the line of its name, a state has nothing else in its heading. -/
theorem behind_className {s : State} (hclass : Text.IsIdentifier s.className) (front : Heading) :
    (enclosed 0 [.line s.className]).foldl Heading.behind front = { state := s.className } := by
  have hopens := opensBlock_of_isPlain hclass.isPlain
  have hne : ∀ text, opensBlock text = true → s.className ≠ text := by
    rintro text htext rfl
    exact Bool.false_ne_true (hopens.symm.trans htext)
  simp [enclosed, Heading.behind, Item.opening, hopens, hne "Entry \x7b" (by decide),
    hne "Exit \x7b" (by decide)]

/-- A block of actions adds their lines, if there are any. -/
theorem behind_boundaryItems (opening : String) {front : Heading} {f : List String → Heading}
    (hnone : f [] = front)
    (hblock : ∀ inner, front.behind (opening ++ " \x7b", inner) = f (inner.map Row.text))
    (actions : List Action) :
    (enclosed 0 (boundaryItems opening actions)).foldl Heading.behind front =
      f (actions.map fun a => a.text ++ ";") := by
  cases actions with
  | nil => exact hnone.symm
  | cons a rest =>
      have hblocks : enclosed 0 (boundaryItems opening (a :: rest)) =
        [(opening ++ " \x7b", Item.rowsAll 1 (actionItems (a :: rest)))] := rfl
      rw [hblocks, List.foldl_cons, List.foldl_nil, hblock, text_rowsAll_actionItems]

/-- Behind the block of its entry actions, it has these, -/
theorem behind_entryItems (actions : List Action) (front : Heading) :
    (enclosed 0 (boundaryItems "Entry" actions)).foldl Heading.behind front =
      { front with entry := front.entry ++ actions.map fun a => a.text ++ ";" } := by
  have hentry : "Entry" ++ " \x7b" = "Entry \x7b" := rfl
  refine behind_boundaryItems "Entry"
    (f := fun lines => { front with entry := front.entry ++ lines }) (by simp) (fun _ => ?_) actions
  rw [Heading.behind, if_pos hentry]

/-- and behind the block of its exit actions, those. -/
theorem behind_exitItems (actions : List Action) (front : Heading) :
    (enclosed 0 (boundaryItems "Exit" actions)).foldl Heading.behind front =
      { front with exit := front.exit ++ actions.map fun a => a.text ++ ";" } := by
  have hentry : "Exit" ++ " \x7b" ≠ "Entry \x7b" := by decide
  have hexit : "Exit" ++ " \x7b" = "Exit \x7b" := rfl
  refine behind_boundaryItems "Exit"
    (f := fun lines => { front with exit := front.exit ++ lines }) (by simp) (fun _ => ?_) actions
  rw [Heading.behind, if_neg hentry, if_pos hexit]

/-- So all of its heading is read in front of its block. -/
theorem behind_heading {s : State} (hclass : Text.IsIdentifier s.className) (level : Detail)
    (front : Heading) :
    (enclosed 0 ([.line s.className] ++ if level = .full then
        boundaryItems "Entry" s.entryActions ++ boundaryItems "Exit" s.exitActions else [])).foldl
      Heading.behind front = stateHeading level s := by
  rw [enclosed_append, List.foldl_append, behind_className hclass]
  by_cases hlevel : level = .full
  · simp only [if_pos hlevel, enclosed_append, List.foldl_append, behind_entryItems,
      behind_exitItems, List.nil_append, stateHeading]
  · simp [hlevel, enclosed, stateHeading]

/-- **The block of a state** stands under its heading. -/
theorem headedBlocks_stateItems {s : State} (hs : s.IsPlain)
    (hclass : Text.IsIdentifier s.className) (level : Detail) (front : Heading) :
    headedBlocks front (enclosed 0 (stateItems level s)) = [stateBlock level s] := by
  have hline : (Item.line s.className).IsCaption := .line hclass.isVisible hclass.isPlain
  rw [stateItems, enclosed_append, headedBlocks_append, headedBlocks_captions
    (List.forall_mem_append.mpr ⟨List.forall_mem_singleton.mpr hline, isCaption_boundary hs level⟩),
    behind_heading hclass]
  rfl

/-- A bell that is rung on the way in is in the heading. -/
example :
    headedBlocks {} (enclosed 0
        (stateItems .full { className := "Open", entryActions := [{ name := "ring" }] })) =
      [({ state := "Open", entry := ["ring();"] }, [])] := by
  decide

/-- **The blocks of a machine** are those of its states, map by map. -/
theorem headedBlocks_items {m : Machine} (hm : m.IsPlain) {start : String}
    (hstart : Text.IsPlain start) {unreachable : List String}
    (hunreachable : ∀ s ∈ unreachable, Text.IsPlain s) (level : Detail) :
    headedBlocks {} (enclosed 0 (items level m start unreachable)) =
      m.maps.flatMap fun map => map.allStates.map (stateBlock level) := by
  have hmaps : ∀ map ∈ m.maps, ∀ heading, headedBlocks heading (enclosed 0 (mapItems level map)) =
      map.allStates.map (stateBlock level) := by
    intro map hmap heading
    obtain ⟨front, back, hfront, hback, hitems⟩ := exists_captions_mapItems
      (hm.names.maps map hmap) (hm.names.transitions map hmap) level
    rw [hitems, enclosed_append, enclosed_append, headedBlocks_append, headedBlocks_append,
      headedBlocks_captions hfront, headedBlocks_captions hback, List.nil_append, List.append_nil,
      List.map_eq_flatMap]
    exact headedBlocks_flatMap (fun s hs =>
      headedBlocks_stateItems (hm.states map hmap s hs) (hm.names.states map hmap s hs) level) _
  rw [items, enclosed_append, enclosed_append, headedBlocks_append, headedBlocks_append,
    headedBlocks_captions (isCaption_headItems hm hstart level),
    headedBlocks_captions (isCaption_unreachableItems hunreachable level),
    headedBlocks_flatMap hmaps, List.nil_append, List.append_nil]

/-! ### Entries of items -/

/-- Items that a text is put in front of are enclosed by it, if there are any. -/
theorem opening_braced (text : String) (body : List Item) :
    (Item.braced text body).opening = text ++ (if body = [] then " \x7b\x7d" else " \x7b") ∧
      (Item.braced text body).body = body := by
  cases body <;> exact ⟨rfl, rfl⟩

/-- **The entries of a transition** are the items that it is written as. -/
theorem enclosed_transitionItems (level : Detail) (t : Transition) :
    (enclosed 1 (transitionItems level t)).map Entry.ofBlock = transitionEntries level t := by
  unfold transitionItems transitionEntries
  simp only [Bool.or_eq_true, decide_eq_true_eq, List.isEmpty_iff]
  split_ifs
  · rfl
  · rw [enclosed, List.map_map, List.map_map]
    refine List.map_congr_left fun g _ => ?_
    obtain ⟨hopening, hbody⟩ := opening_braced
      (signatureText level t ++ " " ++ guardText level g) (actionItems g.actions)
    have hempty : actionItems g.actions = [] ↔ g.actions = [] := List.map_eq_nil_iff
    simp only [Function.comp_apply, guardItem, Entry.ofBlock, hopening, hbody, hempty,
      text_rowsAll_actionItems]

/-- **The entries of a state** are those of its transitions. -/
theorem blocksAt_transitionItems {level : Detail} {transitions : List Transition}
    (h : ∀ item ∈ transitions.flatMap (transitionItems level), item.Neat 1) :
    (blocksAt 1 (Item.rowsAll 1 (transitions.flatMap (transitionItems level)))).map Entry.ofBlock =
      transitions.flatMap (transitionEntries level) := by
  have hblocks : blocksAt 1 (Item.rowsAll 1 (transitions.flatMap (transitionItems level))) =
      enclosed 1 (transitions.flatMap (transitionItems level)) := by
    rw [← List.append_nil (Item.rowsAll 1 (transitions.flatMap (transitionItems level))),
      blocksAt_rowsAll h rfl]
    exact List.append_nil _
  rw [hblocks, enclosed, List.map_flatMap, List.map_flatMap]
  exact List.flatMap_congr fun t _ => enclosed_transitionItems level t

/-! ### The outline of a listing -/

section

variable {m : Machine} {v : Validated} (hbuilt : m.Built) (hvalid : m.validate = .ok v)
  (hm : m.IsPlain) (level : Detail)
include hbuilt hvalid hm

/-- The names of the start state and of the unreachable states are plain. -/
theorem isPlain_placeTexts : Text.IsPlain (startText v) ∧
    ∀ s ∈ v.unreachable.map Place.text, Text.IsPlain s := by
  obtain ⟨hstart, -, hunreachable⟩ := Machine.validate_eq_ok hvalid
  have hplain : ∀ map s, (map, s) ∈ m.states →
      Text.IsPlain (map.name ++ "::" ++ s.className) := by
    intro map s hs
    obtain ⟨hmap, hs⟩ := Machine.mem_states_iff.mp hs
    have hname := (hm.names.maps map hmap).isPlain
    have hclass := (hm.names.states map hmap s (List.mem_append_right _ hs)).isPlain
    simp only [Text.isPlain_append, hname, hclass, and_true, true_and]
    decide
  refine ⟨hplain v.startMap v.startState hstart, List.forall_mem_map.mpr fun p hp => ?_⟩
  rw [hunreachable] at hp
  obtain ⟨⟨map, s⟩, hs, hplace⟩ := List.mem_map.mp (unreached_subset hp)
  obtain ⟨hmap, hordinary⟩ := Machine.mem_states_iff.mp hs
  have hname : s.instanceName = s.className :=
    State.instanceName_of_ordinary ((hbuilt.wellFormed.maps map hmap).ordinary s hordinary)
  have htext : p.text = map.name ++ "::" ++ s.className := by
    rw [← hplace, ← hname]
    rfl
  rw [htext]
  exact hplain map s hs

/-- In the block of a state of a plain machine, all is neat. -/
theorem neat_bodyItems {map : Map} (hmap : map ∈ m.maps) {s : State} (hs : s ∈ map.allStates) :
    ∀ item ∈ s.transitions.flatMap (transitionItems level), item.Neat 1 := by
  have htransfers : ∀ g ∈ s.guards, g.transfer.NamedByIdentifiers := fun g hg =>
    hm.names.transfer hbuilt hvalid
      (List.mem_flatMap.mpr ⟨map, hmap, List.mem_flatMap.mpr ⟨s, hs, hg⟩⟩)
  exact List.forall_mem_flatMap.mpr fun t ht =>
    neat_transitionItems ((hm.states map hmap s hs).transitions t ht)
      (hm.names.transitions map hmap s hs t ht)
      (fun g hg => htransfers g (List.mem_flatMap.mpr ⟨t, ht, hg⟩)) level 1

/-- **The items of a plain machine are neat.** -/
theorem neat_items :
    ∀ item ∈ items level m (startText v) (v.unreachable.map Place.text), item.Neat 0 := by
  obtain ⟨hstart, hunreachable⟩ := isPlain_placeTexts hbuilt hvalid hm
  have hstates : ∀ map ∈ m.maps, ∀ s ∈ map.allStates, ∀ item ∈ stateItems level s, item.Neat 0 :=
    fun map hmap s hs => neat_stateItems (hm.states map hmap s hs) (hm.names.states map hmap s hs)
      (neat_bodyItems hbuilt hvalid hm level hmap hs)
  have hmaps : ∀ item ∈ m.maps.flatMap (mapItems level), item.Neat 0 := by
    refine List.forall_mem_flatMap.mpr fun map hmap => ?_
    obtain ⟨front, back, hfront, hback, hitems⟩ := exists_captions_mapItems
      (hm.names.maps map hmap) (hm.names.transitions map hmap) level
    rw [hitems]
    exact List.forall_mem_append.mpr ⟨fun item hitem => (hfront item hitem).neat,
      List.forall_mem_append.mpr ⟨List.forall_mem_flatMap.mpr (hstates map hmap),
        fun item hitem => (hback item hitem).neat⟩⟩
  exact List.forall_mem_append.mpr ⟨List.forall_mem_append.mpr
    ⟨fun item hitem => (isCaption_headItems hm hstart level item hitem).neat, hmaps⟩,
    fun item hitem => (isCaption_unreachableItems hunreachable level item hitem).neat⟩

/-- **The outline of a machine** is found in the rows of its items. -/
theorem readOutlines_items :
    readOutlines (Item.rowsAll 0 (items level m (startText v) (v.unreachable.map Place.text)) ++
        [⟨0, 0, ""⟩]) =
      m.maps.flatMap fun map => map.allStates.map (stateOutline level) := by
  obtain ⟨hstart, hunreachable⟩ := isPlain_placeTexts hbuilt hvalid hm
  have hneat := neat_items hbuilt hvalid hm level
  have hlast : headedBlocks {} (blocksAt 0 (Item.rowsAll 0
        (items level m (startText v) (v.unreachable.map Place.text)) ++ [⟨0, 0, ""⟩])) =
      headedBlocks {} (enclosed 0
        (items level m (startText v) (v.unreachable.map Place.text))) := by
    rw [blocksAt_rowsAll hneat rfl, headedBlocks_append]
    exact List.append_nil _
  rw [readOutlines, hlast, headedBlocks_items hm hstart hunreachable, List.map_flatMap]
  refine List.flatMap_congr fun map hmap => ?_
  rw [List.map_map]
  refine List.map_congr_left fun s hs => ?_
  have hentries := blocksAt_transitionItems (neat_bodyItems hbuilt hvalid hm level hmap hs)
  exact congrArg (Outline.mk (stateHeading level s)) hentries

/-- **A listing shows the outline of its machine.** At every level of detail, the lines of the
listing of a valid, plainly written machine open and close blocks so that no brace closes nothing
and none is left open, each line is indented by four blanks for each block around it, and the
blocks of states, found by their braces, are those of all states in order, with their entry and exit
actions, transitions, guards and actions in order. -/
theorem listing_shows_outline :
    ∃ rows, readRows 0 (Text.splitAtChar '\n' (render level v).toList) = some (rows, 0) ∧
      (∀ r ∈ rows, r.indentation = 4 * r.depth) ∧
      readOutlines rows = m.maps.flatMap fun map => map.allStates.map (stateOutline level) := by
  obtain ⟨hread, hindented⟩ := readRows_writeAll (neat_items hbuilt hvalid hm level)
  refine ⟨_, ?_, hindented, readOutlines_items hbuilt hvalid hm level⟩
  rw [render, Machine.machine_of_validate hvalid]
  exact hread

end

/-- The texts of the gate are plain. -/
theorem gate_isPlain : gate.IsPlain where
  source := rfl
  names := ⟨by decide, by decide, by decide⟩
  context := by decide
  package := by decide
  header := by decide
  includes := by decide
  imports := by decide
  declarations := by decide
  states := by decide

/-- The listing of the gate shows the counter in front of the lock. -/
theorem gate_listing_read :
    ∃ v rows, gate.Built ∧ gate.validate = .ok v ∧ gate.IsPlain ∧
      readRows 0 (Text.splitAtChar '\n' (render .full v).toList) = some (rows, 0) ∧
      (∀ r ∈ rows, r.indentation = 4 * r.depth) ∧
      readOutlines rows = [
        ⟨⟨"Default", [], []⟩, [⟨"Default nil \x7b", ["count();"]⟩]⟩,
        ⟨⟨"Closed", [], []⟩, [⟨"open(key: u32) [key == 7] Open \x7b\x7d", []⟩]⟩,
        ⟨⟨"Open", [], []⟩, []⟩] := by
  obtain ⟨v, -, hv, -⟩ := gate_program
  obtain ⟨rows, hread, hindented, houtlines⟩ :=
    listing_shows_outline gate_built hv gate_isPlain .full
  exact ⟨v, rows, gate_built, hv, gate_isPlain, hread, hindented, houtlines.trans (by decide)⟩

end Listing

end StateMachine
