import StateMachine.Listing.Basic
import StateMachine.Proofs.Reachability
import StateMachine.Proofs.Text.Identifier
import StateMachine.Proofs.Validation

/-!
# Reading Listed Guards

Below full detail, a listing shows of a guard its condition and its transfer, without the
arguments of a pop. Conditions are arbitrary texts and stand in front of the transfer as they are.
Where all names are identifiers, the guard can still be read back, with one exception: a state may
have the name `nil`, and an end state of this name is printed like the word for no state.

## Proof strategy

`Listing.readGuard` reads from the right. A transfer has no blank, so the last blank of the line
ends the condition, whatever is in it. In the transfer, the first `(` or `/` ends a word: without
one it is the end state of a set, in front of `/` that of a push, and in front of `(` it tells push
and pop apart. What is read is `Transfer.shown`, from which the line can be printed again.

## Conventions

`Transfer.shown` leaves the arguments of a pop out, and has no end state instead of one that is
named `nil` without its map. In front of a push, `nil` is never read as a word: a push from the
state that the machine is in is printed without an end state.

## Main results

* `Listing.readGuard_shortText`: what is read from a line is **what the line shows**.
* `guard_text_faithful_iff`: two guards of a valid machine have the same line if and only if they
  have the same condition and the same transfer, or one of them leads to no state and the other to
  a state named `nil`.
* `sameTransfer_of_guardText_eq`: where no state is named `nil`, lines are **faithful**.
* `cup_drink_line_collides`: where one is, two guards may have the same line.
-/

namespace StateMachine

/-! ### What a line shows -/

/-- The end state, or none if it is named `nil` without its map. -/
def EndState.shown : EndState → EndState
  | .nil => .nil
  | .named target => if target = .unqualified nilWord then .nil else .named target

/-- The transfer without the arguments of a pop, and with the end state of a set as it is shown. -/
def Transfer.shown : Transfer → Transfer
  | .set target => .set target.shown
  | .push target pushed => .push target pushed
  | .pop transition _ => .pop transition []

/-- All names in the transfer are identifiers. -/
def Transfer.NamedByIdentifiers : Transfer → Prop
  | .set target => ∀ r ∈ target.reference?, r.IsIdentifier
  | .push target pushed => (∀ r ∈ target.reference?, r.IsIdentifier) ∧ pushed.IsIdentifier
  | .pop transition _ => ∀ name ∈ transition, Text.IsIdentifier name

/-! ### Reading -/

namespace Listing

/-- A word of a transfer goes on with the character. -/
def continuesWord (c : Char) : Bool :=
  c != '(' && c != '/'

/-- The text between the first opening bracket and the last character. -/
def readBrackets (cs : List Char) : String :=
  String.ofList (cs.dropWhile (· ≠ '(')).tail.dropLast

/-- Reads a transfer: a word, and what stands behind it. -/
def readTransfer (cs : List Char) : Transfer :=
  let word := String.ofList (cs.takeWhile continuesWord)
  let rest := cs.dropWhile continuesWord
  let inner := readBrackets rest
  match rest.head? with
  | none => .set (.parse word)
  | some c =>
    if c = '/' then .push (.named (.parse word)) (.parse inner)
    else if word = "push" then .push .nil (.parse inner)
    else .pop (if inner = "" then none else some inner) []

/-- Reads the condition and the transfer of a guard. The transfer stands behind the last blank. -/
def readGuard (text : String) : String × Transfer :=
  let back := text.toList.reverse
  (String.ofList (back.dropWhile (· ≠ ' ')).reverse.tail.dropLast.dropLast,
    readTransfer (back.takeWhile (· ≠ ' ')).reverse)

/-! ### Reading transfers -/

/-- A text in brackets is read back. -/
theorem readBrackets_append {front : List Char} (h : '(' ∉ front) (inner : String) :
    readBrackets (front ++ '(' :: (inner.toList ++ [')'])) = inner := by
  have hdrop : (front ++ '(' :: (inner.toList ++ [')'])).dropWhile (· ≠ '(') =
      '(' :: (inner.toList ++ [')']) := by
    rw [List.dropWhile_append_of_pos, List.dropWhile_cons_of_neg (by simp)]
    intro c hc
    simpa using fun heq : c = '(' => h (heq ▸ hc)
  rw [readBrackets, hdrop, List.tail_cons, List.dropLast_concat, String.ofList_toList]

section Word

variable {word : List Char} (h : ∀ c ∈ word, continuesWord c = true)
include h

/-- A word alone is read as the end state of a set. -/
theorem readTransfer_word : readTransfer word = .set (.parse (String.ofList word)) := by
  rw [readTransfer, List.takeWhile_eq_self_iff.mpr h, List.dropWhile_eq_nil_iff.mpr h]
  rfl

/-- A word ends at a character that it does not go on with. -/
theorem cut_append {c : Char} (hc : ¬ continuesWord c = true) (rest : List Char) :
    (word ++ c :: rest).takeWhile continuesWord = word ∧
      (word ++ c :: rest).dropWhile continuesWord = c :: rest := by
  rw [List.takeWhile_append_of_pos h, List.dropWhile_append_of_pos h,
    List.takeWhile_cons_of_neg hc, List.dropWhile_cons_of_neg hc, List.append_nil]
  exact ⟨rfl, rfl⟩

/-- A word in front of a slash is read as the end state of a push. -/
theorem readTransfer_slash (rest : List Char) :
    readTransfer (word ++ '/' :: rest) =
      .push (.named (.parse (String.ofList word))) (.parse (readBrackets ('/' :: rest))) := by
  obtain ⟨htake, hdrop⟩ := cut_append h (c := '/') (by decide) rest
  simp only [readTransfer, htake, hdrop, List.head?_cons, if_pos]

/-- A word in front of a bracket tells a push and a pop apart. -/
theorem readTransfer_bracket (inner : String) :
    readTransfer (word ++ '(' :: (inner.toList ++ [')'])) =
      if String.ofList word = "push" then .push .nil (.parse inner)
      else .pop (if inner = "" then none else some inner) [] := by
  obtain ⟨htake, hdrop⟩ := cut_append h (c := '(') (by decide) (inner.toList ++ [')'])
  have hinner := readBrackets_append List.not_mem_nil inner
  rw [List.nil_append] at hinner
  have hparen : '(' ≠ '/' := by decide
  simp only [readTransfer, htake, hdrop, List.head?_cons, if_neg hparen, hinner]

end Word

/-- The end state of a set is read as it is shown. -/
theorem endState_parse_text {target : EndState} (h : ∀ r ∈ target.reference?, r.IsIdentifier) :
    EndState.parse target.text = target.shown := by
  cases target with
  | nil => decide
  | named r =>
      have hr : r.IsIdentifier := h r rfl
      have hnil : r.text = EndState.nilWord ↔ r = .unqualified EndState.nilWord := by
        constructor
        · intro htext
          rw [← hr.parse_text, htext]
          decide
        · rintro rfl
          rfl
      simp only [EndState.parse, EndState.text, hr.trim_text, hr.text_ne_empty, false_or, hnil,
        hr.parse_text, EndState.shown]

/-- The text of a reference of identifiers is a word. -/
theorem continuesWord_of_mem_text {r : Reference} (h : r.IsIdentifier) :
    ∀ c ∈ r.text.toList, continuesWord c = true := fun c hc => by
  have hparen : c ≠ '(' := h.ne_of_mem_text hc (by decide) (by decide)
  have hslash : c ≠ '/' := h.ne_of_mem_text hc (by decide) (by decide)
  simp only [continuesWord, Bool.and_eq_true, bne_iff_ne]
  exact ⟨hparen, hslash⟩

/-- **A transfer is read as it is shown**, if its names are identifiers. -/
theorem readTransfer_text {t : Transfer} (h : t.NamedByIdentifiers) :
    readTransfer (Guard.transferText t []).toList = t.shown := by
  cases t with
  | set target =>
      have hword : ∀ c ∈ target.text.toList, continuesWord c = true := by
        cases target with
        | nil => exact List.all_eq_true.mp rfl
        | named r => exact continuesWord_of_mem_text (h r rfl)
      show readTransfer target.text.toList = .set target.shown
      rw [readTransfer_word hword, String.ofList_toList, endState_parse_text h]
  | push target pushed =>
      obtain ⟨htarget, hpushed⟩ := h
      cases target with
      | nil =>
          have hchars : (Guard.transferText (.push .nil pushed) []).toList =
              "push".toList ++ '(' :: (pushed.text.toList ++ [')']) := by
            simp [Guard.transferText]
          have hword : ∀ c ∈ "push".toList, continuesWord c = true := List.all_eq_true.mp rfl
          rw [hchars, readTransfer_bracket hword, String.ofList_toList, if_pos rfl,
            hpushed.parse_text]
          rfl
      | named target =>
          have htarget : target.IsIdentifier := htarget target rfl
          have hchars : (Guard.transferText (.push (.named target) pushed) []).toList =
              target.text.toList ++
                '/' :: ("push".toList ++ '(' :: (pushed.text.toList ++ [')'])) := by
            simp [Guard.transferText]
          have hinner : readBrackets
              ('/' :: ("push".toList ++ '(' :: (pushed.text.toList ++ [')']))) = pushed.text := by
            have hfront : '(' ∉ "/push".toList := by decide
            exact readBrackets_append hfront pushed.text
          rw [hchars, readTransfer_slash (continuesWord_of_mem_text htarget), String.ofList_toList,
            hinner, htarget.parse_text, hpushed.parse_text]
          rfl
  | pop transition arguments =>
      have hchars : (Guard.transferText (.pop transition arguments) []).toList =
          "pop".toList ++ '(' :: ((Guard.popText transition []).toList ++ [')']) := by
        simp [Guard.transferText]
      have hword : ∀ c ∈ "pop".toList, continuesWord c = true := List.all_eq_true.mp rfl
      have hpush : ("pop" : String) ≠ "push" := by decide
      rw [hchars, readTransfer_bracket hword, String.ofList_toList, if_neg hpush]
      cases transition with
      | none => rfl
      | some name =>
          have hname : name ≠ "" := (h name rfl).ne_empty
          have htext : Guard.popText (some name) [] = name := rfl
          rw [htext, if_neg hname]
          rfl

/-! ### Reading guards -/

/-- No transfer whose names are identifiers has a blank in its text. -/
theorem blank_notMem_transferText {t : Transfer} (h : t.NamedByIdentifiers) :
    ' ' ∉ (Guard.transferText t []).toList := by
  have hreference : ∀ {r : Reference}, r.IsIdentifier → ' ' ∉ r.text.toList := fun hr hblank =>
    hr.ne_of_mem_text hblank (by decide) (by decide) rfl
  cases t with
  | set target =>
      cases target with
      | nil => decide
      | named r => exact hreference (h r rfl)
  | push target pushed =>
      have hpushed := hreference h.2
      cases target with
      | nil => simpa [Guard.transferText] using hpushed
      | named r => simpa [Guard.transferText] using ⟨hreference (h.1 r rfl), hpushed⟩
  | pop transition arguments =>
      cases transition with
      | none =>
          show ' ' ∉ "pop()".toList
          decide
      | some name =>
          have hname : ' ' ∉ name.toList := fun hblank => (h name rfl).ne hblank (by decide) rfl
          have htext : Guard.popText (some name) [] = name := rfl
          simpa [Guard.transferText, htext] using hname

/-- Where there is a condition, it stands in square brackets in front of a blank. -/
theorem conditionText_cases (g : Guard) :
    (g.condition = "" ∧ g.conditionText = "") ∨
      g.conditionText.toList = '[' :: (g.condition.toList ++ [']'] ++ [' ']) := by
  by_cases hnone : g.isUnconditional = true
  · exact .inl ⟨of_decide_eq_true hnone, if_pos hnone⟩
  · refine .inr ?_
    rw [Guard.conditionText, if_neg hnone]
    simp

/-- **A guard is read as it is shown**, whatever its condition is, if its names are identifiers. -/
theorem readGuard_shortText {g : Guard} (h : g.transfer.NamedByIdentifiers) :
    readGuard g.shortText = (g.condition, g.transfer.shown) := by
  have hblank : ∀ c ∈ (Guard.transferText g.transfer []).toList.reverse,
      (decide (c ≠ ' ')) = true := fun c hc => decide_eq_true fun heq =>
    blank_notMem_transferText h (heq ▸ List.mem_reverse.mp hc)
  have hback : g.shortText.toList.reverse =
      (Guard.transferText g.transfer []).toList.reverse ++ g.conditionText.toList.reverse := by
    rw [Guard.shortText, String.toList_append, List.reverse_append]
  rw [readGuard, hback, List.takeWhile_append_of_pos hblank, List.dropWhile_append_of_pos hblank]
  rcases conditionText_cases g with ⟨hempty, htext⟩ | hchars
  · rw [htext, hempty]
    simp [readTransfer_text h]
  · rw [hchars, ← List.cons_append, List.reverse_append]
    simp [readTransfer_text h]

/-! ### Guards with the same line -/

/-- A transfer is printed as it is shown. -/
theorem transferText_shown (t : Transfer) :
    Guard.transferText t.shown [] = Guard.transferText t [] := by
  cases t with
  | set target =>
      cases target with
      | nil => rfl
      | named r =>
          by_cases hr : r = .unqualified EndState.nilWord
          · subst hr
            decide
          · simp only [Transfer.shown, EndState.shown, if_neg hr]
  | push target pushed => rfl
  | pop transition arguments => rfl

/-- **Guards have the same line** if and only if the line shows the same of both. -/
theorem shortText_eq_iff {g g' : Guard} (h : g.transfer.NamedByIdentifiers)
    (h' : g'.transfer.NamedByIdentifiers) :
    g.shortText = g'.shortText ↔
      g.condition = g'.condition ∧ g.transfer.shown = g'.transfer.shown := by
  constructor
  · intro htext
    have hread := congrArg readGuard htext
    rw [readGuard_shortText h, readGuard_shortText h'] at hread
    exact Prod.mk.inj hread
  · rintro ⟨hcondition, hshown⟩
    have hconditionText : g.conditionText = g'.conditionText := by
      rw [Guard.conditionText, Guard.isUnconditional, hcondition]
      rfl
    rw [Guard.shortText, Guard.shortText, hconditionText, ← transferText_shown g.transfer, hshown,
      transferText_shown]

end Listing

/-! ### Guards with the same transfer -/

/-- The guards have the same transfer, but for the arguments of a pop. -/
@[mk_iff]
structure Guard.SameTransfer (g g' : Guard) : Prop where
  kind : g.transfer.kind = g'.transfer.kind
  endState : g.endState? = g'.endState?
  pushed : g.pushed? = g'.pushed?
  popTransition : g.popTransition? = g'.popTransition?

/-- The first guard leads to no state, and the second one to a state named `nil`. -/
@[mk_iff]
structure Guard.NilNamesake (g g' : Guard) : Prop where
  left : g.transfer = .set .nil
  right : g'.transfer = .set (.named (.unqualified EndState.nilWord))

/-- End states are shown the same only if they are, or if one of them is named `nil`. -/
theorem EndState.shown_eq_iff {a b : EndState} :
    a.shown = b.shown ↔ a = b ∨
      (a = .nil ∧ b = .named (.unqualified nilWord)) ∨
        b = .nil ∧ a = .named (.unqualified nilWord) := by
  cases a with
  | nil =>
      cases b with
      | nil => simp
      | named r =>
          by_cases hr : r = .unqualified nilWord <;> simp [shown, hr]
  | named r =>
      cases b with
      | nil =>
          by_cases hr : r = .unqualified nilWord <;> simp [shown, hr]
      | named r' =>
          by_cases hr : r = .unqualified nilWord <;>
            by_cases hr' : r' = .unqualified nilWord <;> simp [shown, hr, hr', eq_comm]

/-- Transfers are shown the same only if they are the same, or if one of them leads to a state
named `nil`. -/
theorem Guard.shown_eq_iff {g g' : Guard} :
    g.transfer.shown = g'.transfer.shown ↔
      g.SameTransfer g' ∨ g.NilNamesake g' ∨ g'.NilNamesake g := by
  obtain ⟨condition, transfer, actions, line⟩ := g
  obtain ⟨condition', transfer', actions', line'⟩ := g'
  rw [sameTransfer_iff, nilNamesake_iff, nilNamesake_iff]
  -- guards of two kinds are told apart by their kinds, and two sets by their end states
  cases transfer <;> cases transfer' <;>
    simp [Transfer.shown, Transfer.kind, endState?, pushed?, popTransition?,
      EndState.shown_eq_iff]

/-! ### Machines whose names are identifiers -/

/-- The names in a transfer are the states that its guard names and the transition that it pops
to. -/
theorem Guard.namedByIdentifiers_transfer (g : Guard)
    (hreferences : ∀ r ∈ g.references, r.IsIdentifier)
    (hpop : ∀ name ∈ g.popTransition?, Text.IsIdentifier name) :
    g.transfer.NamedByIdentifiers := by
  obtain ⟨condition, transfer, actions, line⟩ := g
  have hend : ∀ r ∈ endReference? ⟨condition, transfer, actions, line⟩, r.IsIdentifier :=
    fun r hr => hreferences r (List.mem_append_left _ (Option.mem_toList.mpr hr))
  have hpushed : ∀ r ∈ pushed? ⟨condition, transfer, actions, line⟩, r.IsIdentifier :=
    fun r hr => hreferences r (List.mem_append_right _ (Option.mem_toList.mpr hr))
  cases transfer with
  | set target => exact hend
  | push target pushed => exact ⟨hend, hpushed pushed rfl⟩
  | pop transition arguments => exact hpop

namespace Machine

/-- The guards of all states. -/
def guards (m : Machine) : List Guard :=
  m.maps.flatMap fun map => map.allStates.flatMap State.guards

/-- The names of maps, states and transitions are identifiers. -/
structure NamedByIdentifiers (m : Machine) : Prop where
  maps : ∀ map ∈ m.maps, Text.IsIdentifier map.name
  states : ∀ map ∈ m.maps, ∀ s ∈ map.allStates, Text.IsIdentifier s.className
  transitions : ∀ map ∈ m.maps, ∀ s ∈ map.allStates, ∀ t ∈ s.transitions,
    Text.IsIdentifier t.name

variable {m : Machine} {v : Validated}

/-- In a valid machine, a guard names a state by the name that the state has, and its map if it
names one. -/
theorem exists_state_of_mem_references (hbuilt : m.Built) (hvalid : m.validate = .ok v)
    {g : Guard} (hg : g ∈ m.guards) {r : Reference} (hr : r ∈ g.references) :
    ∃ map ∈ m.maps, (∀ name ∈ r.map, name = map.name) ∧ ∃ s ∈ map.allStates,
      s.className = r.state := by
  have hm := hbuilt.wellFormed
  have hconsistent : m.Consistent :=
    consistent_iff.mpr (hm.exists_validate_eq_ok_iff.mp ⟨v, hvalid⟩)
  obtain ⟨map, hmap, hg⟩ := List.mem_flatMap.mp hg
  obtain ⟨s, hs, hg⟩ := List.mem_flatMap.mp hg
  obtain ⟨t, ht, hg⟩ := List.mem_flatMap.mp hg
  obtain ⟨-, hplace⟩ := hconsistent.targets map hmap s hs t ht g hg r hr
  obtain ⟨x, hx, hplace⟩ := List.mem_map.mp hplace
  obtain ⟨hxmap, hxstate⟩ := mem_states_iff.mp hx
  obtain ⟨hname, hstate⟩ := Place.mk.inj hplace
  have hordinary := (hm.maps x.1 hxmap).ordinary x.2 hxstate
  refine ⟨x.1, hxmap, fun name hr => ?_, x.2, List.mem_append_right _ hxstate, ?_⟩
  · rw [hname, Reference.mapOr, hr, Option.getD_some]
  · rw [← State.instanceName_of_ordinary hordinary, hstate]

/-- So transfers have no other names than the machine. -/
theorem NamedByIdentifiers.transfer (hnames : m.NamedByIdentifiers) (hbuilt : m.Built)
    (hvalid : m.validate = .ok v) {g : Guard} (hg : g ∈ m.guards) :
    g.transfer.NamedByIdentifiers := by
  refine g.namedByIdentifiers_transfer ?_ ?_
  · intro r hr
    obtain ⟨map, hmap, hname, s, hs, hstate⟩ :=
      exists_state_of_mem_references hbuilt hvalid hg hr
    refine ⟨fun name hr => ?_, ?_⟩
    · rw [hname name hr]
      exact hnames.maps map hmap
    · rw [← hstate]
      exact hnames.states map hmap s hs
  · intro name hname
    have hconsistent : m.Consistent :=
      consistent_iff.mpr (hbuilt.wellFormed.exists_validate_eq_ok_iff.mp ⟨v, hvalid⟩)
    obtain ⟨map, hmap, hg⟩ := List.mem_flatMap.mp hg
    obtain ⟨s, hs, hg⟩ := List.mem_flatMap.mp hg
    obtain ⟨t, ht, hg⟩ := List.mem_flatMap.mp hg
    obtain ⟨-, u, ⟨map, hmap, s, hs, hu⟩, rfl⟩ :=
      hconsistent.issues map hmap s hs t ht g hg name hname
    exact hnames.transitions map hmap s hs u hu

end Machine

section

variable {m : Machine} {v : Validated} (hbuilt : m.Built) (hvalid : m.validate = .ok v)
  (hnames : m.NamedByIdentifiers) {g g' : Guard} (hg : g ∈ m.guards) (hg' : g' ∈ m.guards)
include hbuilt hvalid hnames hg hg'

/-- Two guards have the same line if and only if it shows the same of both. -/
theorem Listing.guardText_eq_iff :
    guardText .guards g = guardText .guards g' ↔
      g.condition = g'.condition ∧ g.transfer.shown = g'.transfer.shown :=
  shortText_eq_iff (hnames.transfer hbuilt hvalid hg) (hnames.transfer hbuilt hvalid hg')

/-- **Lines are faithful but for one name.** In a valid machine whose maps, states and transitions
are named by identifiers, two guards have the same line if and only if they have the same
condition, and the same transfer, but for the arguments of a pop, or lead one to no state and the
other to a state that is named `nil`. -/
theorem guard_text_faithful_iff :
    Listing.guardText .guards g = Listing.guardText .guards g' ↔
      g.condition = g'.condition ∧
        (g.SameTransfer g' ∨ g.NilNamesake g' ∨ g'.NilNamesake g) := by
  rw [Listing.guardText_eq_iff hbuilt hvalid hnames hg hg', Guard.shown_eq_iff]

/-- **Without a state of that name, lines are faithful.** -/
theorem sameTransfer_of_guardText_eq
    (hnil : ∀ map ∈ m.maps, ∀ s ∈ map.allStates, s.className ≠ EndState.nilWord)
    (htext : Listing.guardText .guards g = Listing.guardText .guards g') :
    g.condition = g'.condition ∧ g.SameTransfer g' := by
  have hother : ∀ {g g' : Guard}, g' ∈ m.guards → ¬ g.NilNamesake g' := fun hg' h => by
    have hr : Reference.unqualified EndState.nilWord ∈ Guard.references _ :=
      List.mem_append_left _ (Option.mem_toList.mpr (by
        rw [Guard.endReference?, Guard.endState?, h.right]
        rfl))
    obtain ⟨map, hmap, -, s, hs, hstate⟩ :=
      Machine.exists_state_of_mem_references hbuilt hvalid hg' hr
    exact hnil map hmap s hs hstate
  obtain ⟨hcondition, hshown⟩ :=
    (Listing.guardText_eq_iff hbuilt hvalid hnames hg hg').mp htext
  rcases Guard.shown_eq_iff.mp hshown with hsame | hright | hleft
  · exact ⟨hcondition, hsame⟩
  · exact absurd hright (hother hg')
  · exact absurd hleft (hother hg)

end

/-! ### A cup -/

/-- A sip leaves the cup as it is. -/
def cupSip : Guard :=
  .make "thirsty" (.set .nil) 1 []

/-- A drink empties the cup. -/
def cupDrink : Guard :=
  .make "thirsty" (.set (.named (.unqualified "nil"))) 2 []

/-- An empty cup can be filled again. -/
def cupRefill : Guard :=
  .make "thirsty] nil" (.set (.named (.unqualified "full"))) 3 []

/-- The full cup. -/
def cupFull : State :=
  { className := "full"
    transitions := [
      { name := "sip", guards := [cupSip] }, { name := "drink", guards := [cupDrink] }] }

/-- The empty cup, which is named like no state at all. -/
def cupEmpty : State :=
  { className := "nil", transitions := [{ name := "refill", guards := [cupRefill] }] }

/-- The map of the cup. -/
def cupMap : Map :=
  { name := "Cup", states := [cupFull, cupEmpty] }

/-- A cup that is full at first. -/
def cup : Machine :=
  Machine.setStart { context := "Guest", maps := [cupMap] } "Cup::full" 0

/-- The cup can be put together. -/
theorem cup_built : cup.Built := by
  have hfull : cupFull.Built :=
    .addTransition
      (.addTransition (.new "full" 0) (.addGuard (.new "sip" 0) (.make "thirsty" _ 1 _) rfl) rfl)
      (.addGuard (.new "drink" 0) (.make "thirsty" _ 2 _) rfl)
      (State.addTransition_eq_ok_iff.mpr ⟨by decide, rfl⟩)
  have hempty : cupEmpty.Built :=
    .addTransition (.new "nil" 0) (.addGuard (.new "refill" 0) (.make "thirsty] nil" _ 3 _) rfl) rfl
  have hone : (Map.mk "Cup" 0 [cupFull] none).Built :=
    .addState (.new "Cup" 0) hfull
      (Map.addState_eq_ok_iff.mpr (.inr ⟨by decide, by decide, rfl⟩))
  have hmap : cupMap.Built :=
    .addState hone hempty (Map.addState_eq_ok_iff.mpr (.inr ⟨by decide, by decide, rfl⟩))
  exact .setStart "Cup::full" 0 (.addMap (.new "Guest") hmap rfl)

/-- The cup is valid, and its names are identifiers. -/
theorem cup_valid : (∃ v, cup.validate = .ok v) ∧ cup.NamedByIdentifiers := by
  refine ⟨?_, ⟨by decide, by decide, by decide⟩⟩
  have hsome : (cup.validate.toOption).isSome := by decide +kernel
  obtain ⟨v, hv⟩ := Option.isSome_iff_exists.mp hsome
  exact ⟨v, toOption_eq_some_iff.mp hv⟩

/-- The line of the refill is not taken for that of the sip, whatever its condition looks like. -/
theorem cup_refill_line :
    ∃ v, cup.Built ∧ cup.validate = .ok v ∧ cup.NamedByIdentifiers ∧
      cupSip ∈ cup.guards ∧ cupRefill ∈ cup.guards ∧
      Listing.guardText .guards cupSip ≠ Listing.guardText .guards cupRefill := by
  obtain ⟨⟨v, hv⟩, hnames⟩ := cup_valid
  have hsip : cupSip ∈ cup.guards := by decide
  have hrefill : cupRefill ∈ cup.guards := by decide
  refine ⟨v, cup_built, hv, hnames, hsip, hrefill, fun htext => ?_⟩
  obtain ⟨hcondition, -⟩ :=
    (guard_text_faithful_iff cup_built hv hnames hsip hrefill).mp htext
  revert hcondition
  decide

/-- **The line of a drink is that of a sip**, though one of them empties the cup. -/
theorem cup_drink_line_collides :
    ∃ v, cup.Built ∧ cup.validate = .ok v ∧ cup.NamedByIdentifiers ∧
      cupSip ∈ cup.guards ∧ cupDrink ∈ cup.guards ∧
      Listing.guardText .guards cupSip = Listing.guardText .guards cupDrink ∧
      cupSip.endState? ≠ cupDrink.endState? := by
  obtain ⟨⟨v, hv⟩, hnames⟩ := cup_valid
  exact ⟨v, cup_built, hv, hnames, by decide, by decide, by decide, by decide⟩

end StateMachine
