import Mathlib.Data.List.DropRight
import StateMachine.Machine.Reference

/-!
# References Read Back

A reference is read from a text at its first `::`, and printed with `::` between its names. Reading
and printing a text changes nothing. Printing and reading a reference can: a name may itself hold
`::`, and a colon at the end of the map makes `::` begin one character early.

End states are read without their blank ends, and `nil` or nothing is no reference. So what is read
from a text prints as a text that is read in the same way, although that text may be another one.

## Main results

* `Text.cutAtColons_eq_some_iff`: a text is cut at **the first** `::`, so that no other one begins
  in front of it.
* `Reference.parse_text_iff`: the references that are **read back from what they print**.
* `EndState.parse_text_parse`: an end state that was read from a text is read back.
* `references_read_as_written`: reading and printing of references and of end states, together.
-/

namespace StateMachine

namespace Text

/-! ### The first separator -/

/-- Two colons that follow each other begin here or further on. -/
theorem colons_infix_cons_iff {c : Char} {cs : List Char} :
    [':', ':'] <:+: c :: cs ↔ (c = ':' ∧ cs.head? = some ':') ∨ [':', ':'] <:+: cs := by
  rw [List.infix_cons_iff, List.cons_prefix_cons, eq_comm]
  cases cs with
  | nil => simp
  | cons d rest => simp [List.cons_prefix_cons, eq_comm]

/-- A text is not cut exactly when no `::` is in it. -/
theorem cutAtColons_eq_none_iff {cs : List Char} :
    cutAtColons cs = none ↔ ¬ [':', ':'] <:+: cs := by
  fun_induction cutAtColons cs with
  | case1 => simp
  | case2 rest => simp [colons_infix_cons_iff]
  | case3 c rest hcolons ih =>
      have hfirst : ¬ (c = ':' ∧ rest.head? = some ':') := by
        rintro ⟨rfl, hhead⟩
        obtain ⟨rest', rfl⟩ := List.head?_eq_some_iff.mp hhead
        exact hcolons rest' rfl rfl
      rw [Option.map_eq_none_iff, ih, colons_infix_cons_iff, or_iff_right hfirst]

/-- **A text is cut at the first `::`**: with the first of the colons behind it, the part before
them has no `::`. -/
theorem cutAtColons_eq_some_iff {cs before after : List Char} :
    cutAtColons cs = some (before, after) ↔
      cs = before ++ ':' :: ':' :: after ∧ ¬ [':', ':'] <:+: before ++ [':'] := by
  constructor
  · intro h
    refine ⟨eq_append_of_cutAtColons h, ?_⟩
    fun_induction cutAtColons cs generalizing before with
    | case1 => cases h
    | case2 rest =>
        obtain ⟨rfl, rfl⟩ := Prod.mk.inj (Option.some.inj h)
        simp [colons_infix_cons_iff]
    | case3 c rest hcolons ih =>
        obtain ⟨⟨before', after'⟩, hcut, heq⟩ := Option.map_eq_some_iff.mp h
        obtain ⟨rfl, rfl⟩ := Prod.mk.inj heq
        obtain rfl := eq_append_of_cutAtColons hcut
        rw [List.cons_append, colons_infix_cons_iff, not_or]
        refine ⟨?_, ih hcut⟩
        rintro ⟨rfl, hhead⟩
        cases before' with
        | nil => exact hcolons _ rfl rfl
        | cons d before' =>
            obtain rfl : d = ':' := by simpa using hhead
            exact hcolons _ rfl rfl
  · rintro ⟨rfl, hno⟩
    induction before with
    | nil => rfl
    | cons c before ih =>
        rw [List.cons_append, colons_infix_cons_iff, not_or] at hno
        rw [List.cons_append, cutAtColons, ih hno.2, Option.map_some]
        rintro rest rfl hrest
        refine hno.1 ⟨rfl, ?_⟩
        cases before with
        | nil => rfl
        | cons d before => simpa using (List.cons.inj hrest).1

/-- A text with a colon behind it has no `::` exactly when it has none and does not end in a
colon. -/
theorem not_colons_infix_append_colon_iff {cs : List Char} :
    (¬ [':', ':'] <:+: cs ++ [':']) ↔ ¬ [':', ':'] <:+: cs ∧ cs.getLast? ≠ some ':' := by
  induction cs with
  | nil => simp [colons_infix_cons_iff]
  | cons c rest ih =>
      rw [List.cons_append, colons_infix_cons_iff, colons_infix_cons_iff, not_or, not_or, ih]
      cases rest with
      | nil => simp
      | cons d rest => simp [and_assoc]

/-! ### Blank ends -/

/-- The end of a text without its blank end is not blank. -/
theorem dropBlankEnd_dropBlankEnd (cs : List Char) :
    dropBlankEnd (dropBlankEnd cs) = dropBlankEnd cs :=
  List.rdropWhile_idempotent isBlank cs

/-- A text that does not begin with a blank does not do so without its blank end either. -/
theorem dropWhile_dropBlankEnd {cs : List Char} (h : cs.dropWhile isBlank = cs) :
    (dropBlankEnd cs).dropWhile isBlank = dropBlankEnd cs := by
  rw [List.dropWhile_eq_self_iff] at h ⊢
  intro hlength
  have hkept : dropBlankEnd cs <+: cs := List.rdropWhile_prefix isBlank cs
  rw [hkept.getElem hlength]
  exact h (hlength.trans_le hkept.length_le)

/-- **A text without its blank ends has no blank ends.** -/
theorem trim_trim (s : String) : trim (trim s) = trim s := by
  have hfront : (s.toList.dropWhile isBlank).dropWhile isBlank = s.toList.dropWhile isBlank :=
    List.dropWhile_idempotent isBlank s.toList
  rw [trim, trim, String.toList_ofList, dropWhile_dropBlankEnd hfront, dropBlankEnd_dropBlankEnd]

end Text

/-! ### References -/

namespace Reference

/-- A state name alone is read back exactly when it has no `::`. -/
theorem parse_eq_unqualified_iff (state : String) :
    parse state = unqualified state ↔ ¬ [':', ':'] <:+: state.toList := by
  rw [← Text.cutAtColons_eq_none_iff, parse]
  cases Text.cutAtColons state.toList <;> simp [unqualified, qualified]

/-- A qualified name is read back exactly when the `::` behind its map is the first one. -/
theorem parse_eq_qualified_iff (map state : String) :
    parse (map ++ "::" ++ state) = qualified map state ↔
      ¬ [':', ':'] <:+: map.toList ++ [':'] := by
  have hchars : (map ++ "::" ++ state).toList = map.toList ++ ':' :: ':' :: state.toList := by
    simp
  have hcut : parse (map ++ "::" ++ state) = qualified map state ↔
      Text.cutAtColons (map ++ "::" ++ state).toList = some (map.toList, state.toList) := by
    rw [parse]
    cases Text.cutAtColons (map ++ "::" ++ state).toList with
    | none => simp [unqualified, qualified]
    | some parts =>
        obtain ⟨before, after⟩ := parts
        simp [qualified, ← String.toList_inj]
  rw [hcut, Text.cutAtColons_eq_some_iff, hchars, and_iff_right rfl]

/-- **The references that are read back from what they print.** -/
theorem parse_text_iff (r : Reference) :
    parse r.text = r ↔
      (r.map = none ∧ ¬ [':', ':'] <:+: r.state.toList) ∨
        ∃ map, r.map = some map ∧ ¬ [':', ':'] <:+: map.toList ∧
          map.toList.getLast? ≠ some ':' := by
  obtain ⟨_ | map, state⟩ := r
  · simpa [text, unqualified] using parse_eq_unqualified_iff state
  · have hqualified := parse_eq_qualified_iff map state
    rw [Text.not_colons_infix_append_colon_iff] at hqualified
    simpa [text, qualified] using hqualified

end Reference

/-! ### End states -/

namespace EndState

/-- A text is read as `nil` exactly when it is blank or `nil`, but for blank ends. -/
theorem parse_eq_nil_iff {s : String} :
    parse s = .nil ↔ Text.trim s = "" ∨ Text.trim s = "nil" := by
  rw [parse, nilWord]
  split_ifs with h
  · exact iff_of_true rfl h
  · exact iff_of_false nofun h

/-- **An end state that was read from a text is read back.** -/
theorem parse_text_parse (s : String) : parse (parse s).text = parse s := by
  by_cases hnil : Text.trim s = "" ∨ Text.trim s = "nil"
  · rw [parse_eq_nil_iff.mpr hnil]
    exact parse_eq_nil_iff.mpr (.inr (by decide))
  · have hparse : parse s = .named (Reference.parse (Text.trim s)) := if_neg hnil
    rw [hparse, text, Reference.text_parse, parse, Text.trim_trim]
    exact if_neg hnil

end EndState

/-- **References are read as they are written.** What is read from a text prints as that text. A
reference is read back from what it prints exactly when it is a state name alone without `::`, or
its map has no `::` and does not end in a colon. A text is read as the end state `nil` exactly when
it is blank or `nil`, but for blank ends, and every end state that was read from a text is read
back. -/
theorem references_read_as_written :
    (∀ s, (Reference.parse s).text = s) ∧
      (∀ r : Reference, Reference.parse r.text = r ↔
        (r.map = none ∧ ¬ [':', ':'] <:+: r.state.toList) ∨
          ∃ map, r.map = some map ∧ ¬ [':', ':'] <:+: map.toList ∧
            map.toList.getLast? ≠ some ':') ∧
      (∀ s, EndState.parse s = .nil ↔ Text.trim s = "" ∨ Text.trim s = "nil") ∧
      ∀ s, EndState.parse (EndState.parse s).text = EndState.parse s :=
  ⟨Reference.text_parse, Reference.parse_text_iff, fun _ => EndState.parse_eq_nil_iff,
    EndState.parse_text_parse⟩

/-- The state `B` of the map `A:` is read as the state `:B` of the map `A`. -/
example : Reference.parse (Reference.qualified "A:" "B").text = .qualified "A" ":B" := by decide

end StateMachine
