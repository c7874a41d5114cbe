import StateMachine.Proofs.Text.Identifier
import StateMachine.Text.Separator

/-!
# Plain Texts and Lines

A description does not restrict its texts either. `IsPlain` holds of those that stay on their line
and have no brace, so that they neither end a line nor look like the border of a block. Texts that
are put together from plain ones are plain, and so are identifiers. A text of lines that each end
with a line feed is cut into these lines at its line feeds, and an empty rest.

## Main results

* `isPlain_append`, `isPlain_intercalate`: what is **put together** from plain texts is plain.
* `IsIdentifier.isPlain`: so is an identifier.
* `splitAtChar_flatMap`: lines without the separator are **found again**.
-/

namespace StateMachine

namespace Text

/-! ### Plain texts -/

/-- The text has no line feed and no brace. -/
def IsPlain (s : String) : Prop :=
  ∀ c ∈ s.toList, c ≠ '\n' ∧ c ≠ '\x7b' ∧ c ≠ '\x7d'

-- the instances go through the characters of the text, and not through all characters there are
instance (s : String) : Decidable (IsPlain s) :=
  show Decidable (∀ c ∈ s.toList, _) from List.decidableBAll _ _

/-- A text of two parts is plain if both parts are. -/
@[simp] theorem isPlain_append {s t : String} : IsPlain (s ++ t) ↔ IsPlain s ∧ IsPlain t := by
  simp only [IsPlain, String.toList_append, List.forall_mem_append]

/-- Plain texts can be joined by a plain separator. -/
theorem isPlain_intercalate {separator : String} {texts : List String}
    (hseparator : IsPlain separator) (htexts : ∀ s ∈ texts, IsPlain s) :
    IsPlain (separator.intercalate texts) := by
  induction texts with
  | nil => exact fun c hc => absurd hc List.not_mem_nil
  | cons s rest ih =>
      obtain ⟨hs, hrest⟩ := List.forall_mem_cons.mp htexts
      cases rest with
      | nil => exact hs
      | cons t rest =>
          rw [String.intercalate_cons_cons, isPlain_append, isPlain_append]
          exact ⟨⟨hs, hseparator⟩, ih hrest⟩

/-- An identifier is plain. -/
theorem IsIdentifier.isPlain {s : String} (h : IsIdentifier s) : IsPlain s := fun _ hc =>
  ⟨h.ne hc (by decide), h.ne hc (by decide), h.ne hc (by decide)⟩

/-! ### Visible texts -/

/-- The text begins with a character that is not a space. -/
def IsVisible (s : String) : Prop :=
  ∃ c ∈ s.toList.head?, c ≠ ' '

instance (s : String) : Decidable (IsVisible s) :=
  show Decidable (∃ c ∈ s.toList.head?, _) from Option.decidableExistsMem _

/-- A visible text stays visible, whatever is put behind it. -/
theorem IsVisible.append {s : String} (h : IsVisible s) (t : String) : IsVisible (s ++ t) := by
  obtain ⟨c, hc, hne⟩ := h
  refine ⟨c, ?_, hne⟩
  rw [String.toList_append, List.head?_append, hc]
  rfl

/-- An identifier is visible. -/
theorem IsIdentifier.isVisible {s : String} (h : IsIdentifier s) : IsVisible s := by
  cases hchars : s.toList with
  | nil => exact absurd (String.toList_eq_nil_iff.mp hchars) h.ne_empty
  | cons c rest =>
      refine ⟨c, by simp [hchars], h.ne (hchars ▸ List.mem_cons_self) (by decide)⟩

/-! ### Lines -/

/-- A line without the separator goes on until it. -/
theorem splitAtChar_append {separator : Char} {line : List Char} (h : separator ∉ line)
    (rest : List Char) :
    splitAtChar separator (line ++ separator :: rest) =
      line :: splitAtChar separator rest := by
  induction line with
  | nil => simp [splitAtChar]
  | cons c line ih =>
      rw [List.mem_cons, not_or] at h
      rw [List.cons_append, splitAtChar, if_neg (Ne.symm h.1), ih h.2]
      rfl

/-- **Lines that end with the separator are found again**, and an empty text behind them. -/
theorem splitAtChar_flatMap {separator : Char} {lines : List (List Char)}
    (h : ∀ line ∈ lines, separator ∉ line) :
    splitAtChar separator (lines.flatMap fun line => line ++ [separator]) = lines ++ [[]] := by
  induction lines with
  | nil => rfl
  | cons line rest ih =>
      rw [List.flatMap_cons, List.append_assoc, List.singleton_append,
        splitAtChar_append (h line List.mem_cons_self),
        ih fun l hl => h l (List.mem_cons_of_mem line hl)]
      rfl

end Text

end StateMachine
