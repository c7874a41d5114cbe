import StateMachine.Proofs.Text.Identifier
import StateMachine.Rust.Fragment

/-!
# Reading Words

A word is a text of ASCII letters, digits and underscores. None of its characters ends a
token, begins a comment or is left out, so if a word is read as an identifier at all, then as
itself. Words that are read otherwise, such as numbers, are read as no identifier.

## Main results

* `Lexer.suffix_of_trees`: what the lexer has read is not taken back.
* `Ident.eq_of_read_of_isWord`: a word is **read as itself**.
-/

namespace StateMachine.Rust

open Text

/-- An ASCII letter, a digit or an underscore. -/
def IsWordChar (c : Char) : Prop :=
  c.isAlphanum = true ∨ c = '_'

instance (c : Char) : Decidable (IsWordChar c) :=
  inferInstanceAs (Decidable (_ ∨ _))

/-- A text of letters, digits and underscores. -/
def IsWord (text : String) : Prop :=
  ∀ c ∈ text.toList, IsWordChar c

/-! ### The characters of words -/

namespace IsWordChar

variable {c : Char}

/-- The code points of the characters of words. -/
theorem bounds (h : IsWordChar c) :
    48 ≤ c.val.toNat ∧ c.val.toNat ≤ 57 ∨ 65 ≤ c.val.toNat ∧ c.val.toNat ≤ 90 ∨
      c.val.toNat = 95 ∨ 97 ≤ c.val.toNat ∧ c.val.toNat ≤ 122 := by
  rcases h with h | rfl
  · delta Char.isAlphanum Char.isAlpha Char.isUpper Char.isLower Char.isDigit at h
    simp only [Bool.or_eq_true, Bool.and_eq_true, decide_eq_true_eq,
      UInt32.le_iff_toNat_le] at h
    rcases h with (⟨hlow, hhigh⟩ | ⟨hlow, hhigh⟩) | ⟨hlow, hhigh⟩
    · exact .inr (.inl ⟨hlow, hhigh⟩)
    · exact .inr (.inr (.inr ⟨hlow, hhigh⟩))
    · exact .inl ⟨hlow, hhigh⟩
  · exact .inr (.inr (.inl rfl))

/-- The characters of words may stand in identifiers. -/
theorem isIdentifierContinue (h : IsWordChar c) : isIdentifierContinue c = true := by
  have hascii : c.val < 0x80 := by
    have hbounds := h.bounds
    rw [UInt32.lt_iff_toNat_lt]
    show c.val.toNat < 128
    omega
  rw [Text.isIdentifierContinue, if_pos hascii, Bool.or_eq_true, beq_iff_eq]
  exact h

/-- The characters of words are not blank. -/
theorem isBlank (h : IsWordChar c) : isBlank c = false := by
  have hbounds := h.bounds
  simp only [Text.isBlank, Bool.or_eq_false_iff, Bool.and_eq_false_iff, beq_eq_false_iff_ne,
    decide_eq_false_iff_not]
  omega

/-- No character of a word is one of the others. -/
theorem ne {d : Char} (h : IsWordChar c) (hd : ¬ IsWordChar d) : c ≠ d :=
  fun heq => hd (heq ▸ h)

end IsWordChar

/-- A word has no blank ends. -/
theorem IsWord.trim {text : String} (h : IsWord text) : trim text = text :=
  trim_eq_self fun c hc => (h c hc).isBlank

namespace Lexer

/-! ### What stands before a word -/

section

variable {c : Char} {cs : List Char}

/-- A text does not begin with what begins otherwise. -/
theorem startsWith_eq_false {text : String} {d : Char} {ds : List Char}
    (htext : text.toList = d :: ds) (hne : c ≠ d) : startsWith text (c :: cs) = false := by
  simp [startsWith, htext, List.isPrefixOf, Ne.symm hne]

/-- A text does not begin with what begins otherwise. -/
theorem literally_eq_none {text : String} {d : Char} {ds : List Char}
    (htext : text.toList = d :: ds) (hne : c ≠ d) : literally text (c :: cs) = none := by
  simp [literally, htext, List.isPrefixOf, Ne.symm hne]

/-- Nothing is skipped before a word. -/
theorem skipOne_eq_none (h : IsWordChar c) : skipOne (c :: cs) = none := by
  have hslash : c ≠ '/' := h.ne (by decide)
  have hspace : isSpace c = false := by
    simp [isSpace, h.isBlank, h.ne (d := '\u200e') (by decide), h.ne (d := '\u200f') (by decide)]
  have hline : startsWith "//" (c :: cs) = false := startsWith_eq_false rfl hslash
  have hempty : startsWith "/**/" (c :: cs) = false := startsWith_eq_false rfl hslash
  have hblock : startsWith "/*" (c :: cs) = false := startsWith_eq_false rfl hslash
  simp [skipOne, hline, hempty, hblock, hspace]

/-- No documentation comment begins with a word. -/
theorem docComment_eq_none (h : IsWordChar c) : docComment (c :: cs) = none := by
  have hslash : c ≠ '/' := h.ne (by decide)
  have hinner : startsWith "//!" (c :: cs) = false := startsWith_eq_false rfl hslash
  have hinnerBlock : startsWith "/*!" (c :: cs) = false := startsWith_eq_false rfl hslash
  have houter : startsWith "///" (c :: cs) = false := startsWith_eq_false rfl hslash
  have houterBlock : startsWith "/**" (c :: cs) = false := startsWith_eq_false rfl hslash
  simp [docComment, hinner, hinnerBlock, houter, houterBlock]

/-- No placeholder begins with a word. -/
theorem placeholder?_eq_none (h : IsWordChar c) : placeholder? (c :: cs) = none := by
  have hparen : c ≠ '(' := h.ne (by decide)
  have hnone : literally placeholder (c :: cs) = none := literally_eq_none rfl hparen
  rw [placeholder?, hnone]
  rfl

/-- A word opens no bracket. -/
theorem opened_eq_none (h : IsWordChar c) : opened c = none := by
  simp [opened, h.ne (d := '(') (by decide), h.ne (d := '[') (by decide),
    h.ne (d := '\x7b') (by decide)]

/-- A word closes no bracket. -/
theorem closed_eq_none (h : IsWordChar c) : closed c = none := by
  simp [closed, h.ne (d := ')') (by decide), h.ne (d := ']') (by decide),
    h.ne (d := '\x7d') (by decide)]

/-- No punctuation begins with a word. -/
theorem punct_eq_none (h : IsWordChar c) : punct (c :: cs) = none := by
  have hpunctuation : (punctuation.all fun d => !decide (IsWordChar d)) = true := by decide
  have hnot : c ∉ punctuation := by
    intro hmem
    simpa [h] using List.all_eq_true.mp hpunctuation c hmem
  have hat : atPunct (c :: cs) = false := by
    unfold atPunct
    split
    · rfl
    · simpa using hnot
  unfold punct
  rw [hat]
  rfl

end

/-! ### What was read stays read -/

/-- The trees of the outermost group, the latest first. -/
def outermost : List Frame → List Tree → List Tree
  | [], done => done
  | (_, before) :: outer, _ => outermost outer before

/-- Another tree of the innermost group takes none away from the outermost one. -/
theorem outermost_suffix (frames : List Frame) (t : List Tree) (done : List Tree) :
    outermost frames done <:+ outermost frames (t ++ done) := by
  cases frames with
  | nil => exact List.suffix_append t done
  | cons frame outer => exact List.suffix_rfl

/-- **What was read stays read**: the trees that the lexer gives begin with those it has. -/
theorem suffix_of_trees {fuel : Nat} {frames : List Frame} {done ts : List Tree}
    {cs : List Char} (h : trees fuel frames done cs = some ts) :
    outermost frames done <:+ ts.reverse := by
  fun_induction trees fuel frames done cs with
  | case2 fuel frames done cs rest hskip ih => exact ih h
  | case4 fuel frames done cs hskip doc rest hdoc hreturn ih =>
      exact (outermost_suffix frames _ done).trans (ih h)
  | case5 fuel frames done hframes =>
      obtain rfl := List.isEmpty_iff.mp hframes
      obtain rfl := Option.some.inj h
      rw [List.reverse_reverse]
      exact List.suffix_rfl
  | case7 fuel frames done c rest l rest' hskip hdoc hplaceholder ih =>
      rw [hplaceholder] at h
      exact (outermost_suffix frames [.leaf l] done).trans (ih h)
  | case8 fuel frames done c rest d hopened hskip hdoc hplaceholder ih =>
      rw [hplaceholder, hopened] at h
      exact ih h
  | case9 fuel done c rest hopened d before outer hskip hdoc hplaceholder hclosed ih =>
      rw [hplaceholder, hopened, hclosed] at h
      simp only [if_true] at h
      exact (outermost_suffix outer [.group d done.reverse] before).trans (ih h)
  | case10 fuel done c rest d hclosed hopened d' before outer hne hskip hdoc hplaceholder =>
      rw [hplaceholder, hopened, hclosed] at h
      simp only [if_neg hne] at h
      cases h
  | case11 fuel done c rest d hclosed hopened hskip hdoc hplaceholder =>
      rw [hplaceholder, hopened, hclosed] at h
      cases h
  | case12 fuel frames done c rest hclosed hopened l rest' hskip hdoc hplaceholder hleaf ih =>
      rw [hplaceholder, hopened, hclosed, hleaf] at h
      exact (outermost_suffix frames [.leaf l] done).trans (ih h)
  | case13 fuel frames done c rest hclosed hopened hskip hdoc hplaceholder hleaf =>
      rw [hplaceholder, hopened, hclosed, hleaf] at h
      cases h
  | case1 | case3 | case6 => cases h

/-! ### Reading a word -/

/-- The scanners of literals give literals. -/
theorem exists_of_firstLiteral {cs rest : List Char} {l : Leaf}
    {scanners : List (LiteralKind × Scan)} (h : firstLiteral cs scanners = some (l, rest)) :
    ∃ kind text, l = .literal kind text := by
  induction scanners with
  | nil => cases h
  | cons scanner others ih =>
      unfold firstLiteral at h
      split at h
      · obtain ⟨rfl, -⟩ := Prod.mk.inj (Option.some.inj h)
        exact ⟨_, _, rfl⟩
      · exact ih h

/-- Where an identifier is read from the characters of a word, it takes all of them. -/
theorem eq_of_ident {cs rest : List Char} {i : Ident} (hcs : ∀ c ∈ cs, IsWordChar c)
    (h : ident cs = some (i, rest)) : i = { text := String.ofList cs } ∧ rest = [] := by
  have hraw : literally "r#" cs = none := by
    refine if_neg fun hprefix => ?_
    have hmem : '#' ∈ cs := (List.isPrefixOf_iff_prefix.mp hprefix).subset (by decide)
    exact absurd (hcs '#' hmem) (by decide)
  have hall : ∀ c ∈ cs, isIdentifierContinue c = true := fun c hc =>
    (hcs c hc).isIdentifierContinue
  unfold ident at h
  split_ifs at h
  rw [anyIdent, hraw] at h
  obtain ⟨⟨text, behind⟩, hword, heq⟩ := Option.map_eq_some_iff.mp h
  obtain ⟨rfl, rfl⟩ := Prod.mk.inj heq
  cases cs with
  | nil => cases hword
  | cons c cs =>
      have htail : ∀ d ∈ cs, isIdentifierContinue d = true := fun d hd =>
        hall d (List.mem_cons_of_mem c hd)
      rw [word] at hword
      split_ifs at hword
      obtain ⟨rfl, rfl⟩ := Prod.mk.inj (Option.some.inj hword)
      rw [List.takeWhile_eq_self_iff.mpr htail, List.dropWhile_eq_nil_iff.mpr htail]
      exact ⟨rfl, rfl⟩

/-- Where an identifier is the first token of a word, it is the word. -/
theorem eq_of_leaf {fuel : Nat} {c : Char} {cs rest : List Char} {i : Ident}
    (hcs : ∀ d ∈ c :: cs, IsWordChar d) (h : leaf fuel (c :: cs) = some (.ident i, rest)) :
    i = { text := String.ofList (c :: cs) } := by
  unfold leaf at h
  rw [punct_eq_none (hcs c List.mem_cons_self)] at h
  split at h
  · next hliteral =>
      obtain rfl := Option.some.inj h
      obtain ⟨kind, text, hkind⟩ := exists_of_firstLiteral hliteral
      cases hkind
  · obtain ⟨⟨i', rest'⟩, hident, heq⟩ := Option.map_eq_some_iff.mp h
    obtain ⟨hi, rfl⟩ := Prod.mk.inj heq
    obtain rfl := Leaf.ident.inj hi
    exact (eq_of_ident hcs hident).1

/-- **A word is one token**: where a single identifier is read from a word, it is the word. -/
theorem eq_of_trees_word {fuel : Nat} {cs : List Char} {i : Ident}
    (hcs : ∀ c ∈ cs, IsWordChar c) (h : trees fuel [] [] cs = some [.leaf (.ident i)]) :
    i = { text := String.ofList cs } := by
  cases fuel with
  | zero => cases h
  | succ fuel =>
      cases cs with
      | nil => cases h
      | cons c cs =>
          have hc : IsWordChar c := hcs c List.mem_cons_self
          unfold trees at h
          rw [skipOne_eq_none hc, docComment_eq_none hc] at h
          simp only [placeholder?_eq_none hc, opened_eq_none hc, closed_eq_none hc] at h
          cases hleaf : leaf fuel (c :: cs) with
          | none =>
              rw [hleaf] at h
              cases h
          | some found =>
              obtain ⟨l, rest⟩ := found
              rw [hleaf] at h
              -- the leaf is the only tree there is
              have heq : [Tree.leaf l] = [.leaf (.ident i)] :=
                (suffix_of_trees h).eq_of_length rfl
              obtain rfl := Tree.leaf.inj (List.singleton_inj.mp heq)
              exact eq_of_leaf hcs hleaf

end Lexer

/-- **A word is read as itself.** -/
theorem Ident.eq_of_read_of_isWord {what text : String} {line : Nat} {i : Ident}
    (hword : IsWord text) (h : Ident.read what text line = .ok i) : i = { text } := by
  have hparse : Ident.parse? text = some i := readBy_eq_ok_iff.mp h
  unfold Ident.parse? at hparse
  rw [hword.trim] at hparse
  split at hparse
  · next i' hlex =>
      split_ifs at hparse
      obtain rfl := Option.some.inj hparse
      have hmark : ∀ rest, text.toList ≠ '\ufeff' :: rest := by
        intro rest hchars
        exact absurd (hword '\ufeff' (hchars ▸ List.mem_cons_self)) (by decide)
      unfold Lexer.lex at hlex
      split at hlex
      · next rest hchars => exact absurd hchars (hmark rest)
      · have heq := Lexer.eq_of_trees_word hword hlex
        rwa [String.ofList_toList] at heq
  · cases hparse

end StateMachine.Rust
