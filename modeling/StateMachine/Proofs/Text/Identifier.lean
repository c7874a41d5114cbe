import Mathlib.Data.List.TakeWhile
import StateMachine.Machine.Reference
import StateMachine.Text.Identifier

/-!
# Names That Are Identifiers

A description does not restrict its names. `IsIdentifier` holds of those that are identifiers,
also raw ones such as `r#type`. Their characters are neither blank nor one of those that a
description puts between names, so that a reference of such names can be read back.

## Main results

* `trim_eq_self`: a text without blanks has no blank ends.
* `IsIdentifier.ne`: an identifier has **no character that separates**.
* `Reference.IsIdentifier.parse_text`: a reference of identifiers is **what is read from its text**.
-/

namespace StateMachine

namespace Text

/-! ### Identifiers -/

/-- A character that may begin an identifier, and then characters that it may go on with. -/
def isPlainIdentifier : List Char → Bool
  | [] => false
  | c :: rest => isIdentifierStart c && rest.all isIdentifierContinue

/-- The text is an identifier, which may be raw. -/
def IsIdentifier (s : String) : Prop :=
  isPlainIdentifier s.toList = true ∨
    s.toList.take 2 = ['r', '#'] ∧ isPlainIdentifier (s.toList.drop 2) = true

instance (s : String) : Decidable (IsIdentifier s) :=
  inferInstanceAs (Decidable (_ ∨ _))

/-- The characters of identifiers, raw ones included. -/
def isNameChar (c : Char) : Bool :=
  isIdentifierContinue c || c == '#'

/-- All characters that may go on an identifier are characters of names. -/
theorem isNameChar_of_mem_plain {cs : List Char} (h : isPlainIdentifier cs = true) {c : Char}
    (hc : c ∈ cs) : isNameChar c = true := by
  cases cs with
  | nil => cases hc
  | cons d rest =>
      simp only [isPlainIdentifier, Bool.and_eq_true, List.all_eq_true] at h
      rw [isNameChar, Bool.or_eq_true]
      rcases List.mem_cons.mp hc with rfl | hrest
      · exact .inl (isIdentifierContinue_of_isIdentifierStart h.1)
      · exact .inl (h.2 c hrest)

namespace IsIdentifier

variable {s : String}

/-- An identifier consists of characters of names. -/
theorem isNameChar (h : IsIdentifier s) {c : Char} (hc : c ∈ s.toList) : isNameChar c = true := by
  rcases h with h | ⟨hraw, h⟩
  · exact isNameChar_of_mem_plain h hc
  · have hmark : ∀ c ∈ ['r', '#'], Text.isNameChar c = true := List.all_eq_true.mp rfl
    rw [← List.take_append_drop 2 s.toList, hraw] at hc
    exact (List.mem_append.mp hc).elim (hmark c) (isNameChar_of_mem_plain h)

/-- **No character of an identifier separates** names, as none of these is a character of names. -/
theorem ne (h : IsIdentifier s) {c d : Char} (hc : c ∈ s.toList)
    (hd : Text.isNameChar d = false) : c ≠ d := by
  rintro rfl
  rw [h.isNameChar hc] at hd
  cases hd

/-- An identifier is not empty. -/
theorem ne_empty (h : IsIdentifier s) : s ≠ "" := by
  rintro rfl
  revert h
  decide

end IsIdentifier

/-! ### Blanks -/

/-- The blank characters beyond ASCII, as ranges of code points. -/
def blankRanges : List (Nat × Nat) :=
  [(0x85, 0x85), (0xA0, 0xA0), (0x1680, 0x1680), (0x2000, 0x200A), (0x2028, 0x2029),
   (0x202F, 0x202F), (0x205F, 0x205F), (0x3000, 0x3000)]

/-- The tables of identifiers leave them out. -/
theorem blankRanges_apart : (startRanges.toList ++ continueRanges.toList).all (fun (first, last) =>
    blankRanges.all fun (low, high) => high < first.toNat || last.toNat < low) = true := by
  decide +kernel

/-- A blank character is in none of the tables. -/
theorem inRanges_eq_false_of_isBlank {c : Char} (hascii : ¬ c.val < 0x80)
    (hblank : isBlank c = true) {ranges : Array CodeRange}
    (hranges : ∀ r ∈ ranges.toList, r ∈ startRanges.toList ++ continueRanges.toList) :
    inRanges ranges c = false := by
  obtain ⟨⟨low, high⟩, hrange, hlow, hhigh⟩ : ∃ range ∈ blankRanges,
      range.1 ≤ c.val.toNat ∧ c.val.toNat ≤ range.2 := by
    have hfrom : 128 ≤ c.val.toNat := by
      simpa [UInt32.lt_iff_toNat_lt] using hascii
    simp only [isBlank, Bool.or_eq_true, Bool.and_eq_true, decide_eq_true_eq,
      beq_iff_eq] at hblank
    simp only [blankRanges, List.mem_cons, List.not_mem_nil, or_false, exists_eq_or_imp,
      exists_eq_left]
    omega
  rw [inRanges, ← Array.any_toList, List.any_eq_false]
  rintro ⟨first, last⟩ hr hin
  have hapart := List.all_eq_true.mp
    (List.all_eq_true.mp blankRanges_apart _ (hranges _ hr)) _ hrange
  simp only [Bool.and_eq_true, Bool.or_eq_true, decide_eq_true_eq,
    UInt32.le_iff_toNat_le] at hin hapart
  omega

/-- **No identifier goes on with a blank character.** -/
theorem isIdentifierContinue_eq_false_of_isBlank {c : Char} (hblank : isBlank c = true) :
    isIdentifierContinue c = false := by
  by_cases hascii : c.val < 0x80
  · have hall : ∀ n < 128, isBlank (Char.ofNat n) = true →
        isIdentifierContinue (Char.ofNat n) = false := by
      decide +kernel
    have hn : c.toNat < 128 := by simpa [UInt32.lt_iff_toNat_lt] using hascii
    have hc := hall c.toNat hn
    rw [Char.ofNat_toNat] at hc
    exact hc hblank
  · rw [isIdentifierContinue, if_neg hascii,
      inRanges_eq_false_of_isBlank hascii hblank fun r hr => List.mem_append_left _ hr,
      inRanges_eq_false_of_isBlank hascii hblank fun r hr => List.mem_append_right _ hr]
    rfl

/-- No blank character is a character of names. -/
theorem isBlank_eq_false_of_isNameChar {c : Char} (h : isNameChar c = true) :
    isBlank c = false := by
  by_contra hblank
  rw [Bool.not_eq_false] at hblank
  rw [isNameChar, isIdentifierContinue_eq_false_of_isBlank hblank, Bool.false_or,
    beq_iff_eq] at h
  subst h
  cases hblank

/-- **A text without blanks has no blank ends.** -/
theorem trim_eq_self {s : String} (h : ∀ c ∈ s.toList, isBlank c = false) : trim s = s := by
  have hfront : s.toList.dropWhile isBlank = s.toList := by
    cases hchars : s.toList with
    | nil => rfl
    | cons c cs =>
        have hc : isBlank c = false := h c (hchars ▸ List.mem_cons_self)
        rw [List.dropWhile_cons_of_neg (by simp [hc])]
  have hend : s.toList.reverse.dropWhile isBlank = s.toList.reverse := by
    cases hchars : s.toList.reverse with
    | nil => rfl
    | cons c cs =>
        have hmem : c ∈ s.toList := List.mem_reverse.mp (hchars ▸ List.mem_cons_self)
        rw [List.dropWhile_cons_of_neg (by simp [h c hmem])]
  rw [trim, hfront, dropBlankEnd, hend, List.reverse_reverse, String.ofList_toList]

/-! ### Colons -/

/-- A text without colons is not cut. -/
theorem cutAtColons_eq_none {cs : List Char} (h : ':' ∉ cs) : cutAtColons cs = none := by
  induction cs with
  | nil => rfl
  | cons c rest ih =>
      rw [List.mem_cons, not_or] at h
      rw [cutAtColons, ih h.2, Option.map_none]
      rintro rest' rfl
      exact absurd rfl h.1

/-- Two colons behind a text without any are where it is cut. -/
theorem cutAtColons_append {cs : List Char} (h : ':' ∉ cs) (rest : List Char) :
    cutAtColons (cs ++ ':' :: ':' :: rest) = some (cs, rest) := by
  induction cs with
  | nil => rfl
  | cons c before ih =>
      rw [List.mem_cons, not_or] at h
      rw [List.cons_append, cutAtColons, ih h.2, Option.map_some]
      rintro rest' rfl
      exact absurd rfl h.1

end Text

/-! ### References of identifiers -/

/-- The names in the reference are identifiers. -/
structure Reference.IsIdentifier (r : Reference) : Prop where
  map : ∀ map ∈ r.map, Text.IsIdentifier map
  state : Text.IsIdentifier r.state

namespace Reference.IsIdentifier

variable {r : Reference}

/-- **What is read from the text** of a reference of identifiers is the reference. -/
theorem parse_text (h : r.IsIdentifier) : Reference.parse r.text = r := by
  have hcolon : ∀ {s : String}, Text.IsIdentifier s → ':' ∉ s.toList := fun hs hmem =>
    hs.ne hmem (by decide) rfl
  obtain ⟨_ | map, state⟩ := r
  · rw [parse, text, Text.cutAtColons_eq_none (hcolon h.state)]
    rfl
  · have hchars : (map ++ "::" ++ state).toList = map.toList ++ ':' :: ':' :: state.toList := by
      simp
    rw [parse, text, hchars, Text.cutAtColons_append (hcolon (h.map map rfl))]
    simp only [String.ofList_toList, qualified]

/-- The characters of the text are those of names, and colons. -/
theorem isNameChar_of_mem_text (h : r.IsIdentifier) {c : Char} (hc : c ∈ r.text.toList) :
    Text.isNameChar c = true ∨ c = ':' := by
  obtain ⟨_ | map, state⟩ := r
  · exact .inl (h.state.isNameChar hc)
  · simp only [text, String.toList_append, List.mem_append] at hc
    rcases hc with (hmap | hcolons) | hstate
    · exact .inl ((h.map map rfl).isNameChar hmap)
    · exact .inr (by simpa using hcolons)
    · exact .inl (h.state.isNameChar hstate)

/-- No other character is in the text. -/
theorem ne_of_mem_text (h : r.IsIdentifier) {c d : Char} (hc : c ∈ r.text.toList)
    (hd : Text.isNameChar d = false) (hcolon : d ≠ ':') : c ≠ d := by
  rintro rfl
  rcases h.isNameChar_of_mem_text hc with hname | hsame
  · rw [hd] at hname
    cases hname
  · exact hcolon hsame

/-- The text has no blank ends. -/
theorem trim_text (h : r.IsIdentifier) : Text.trim r.text = r.text := by
  refine Text.trim_eq_self fun c hc => ?_
  rcases h.isNameChar_of_mem_text hc with hname | rfl
  · exact Text.isBlank_eq_false_of_isNameChar hname
  · rfl

/-- The text is not empty. -/
theorem text_ne_empty (h : r.IsIdentifier) : r.text ≠ "" := by
  intro hempty
  have hr : r = .unqualified "" := by
    rw [← parse_text h, hempty]
    rfl
  subst hr
  exact h.state.ne_empty rfl

end Reference.IsIdentifier

end StateMachine
