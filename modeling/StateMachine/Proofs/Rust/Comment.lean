import StateMachine.Proofs.Rust.Fuel

/-!
# Text That Is No Code

White space and comments that document nothing are skipped, one piece after the other. `Skipped`
holds of the texts that consist of such pieces. They are the texts that read as no tokens, and what
stands behind them is read as if it stood alone, unless it goes on with a comment that a line feed
would have ended.

## Main results

* `lex_eq_nil_iff_skipped`: the texts that read as **no tokens** are those that are skipped.
* `Skipped.lex_append`: such a text **changes nothing** in front of code, if a line feed ends it.
* `skipped_lineComment_iff`: a line comment at the beginning goes up to the first line feed.

## Conventions

A byte order mark is read over at the beginning of a text, and is no token anywhere else. The
results on whole texts are about those without one.
-/

namespace StateMachine.Rust.Lexer

variable {cs rest code : List Char}

/-- The text consists of white space and of comments that document nothing. -/
inductive Skipped : List Char → Prop
  | nil : Skipped []
  | skip {cs rest : List Char} : skipOne cs = some rest → Skipped rest → Skipped cs

/-- Where something is skipped, what is behind it decides. -/
theorem skipped_iff_of_skipOne (h : skipOne cs = some rest) : Skipped cs ↔ Skipped rest := by
  refine ⟨fun hcs => ?_, .skip h⟩
  cases hcs with
  | nil => cases h
  | skip h' hrest =>
      obtain rfl := Option.some.inj (h'.symm.trans h)
      exact hrest

/-! ### Reading what is skipped -/

/-- Where something is skipped, reading goes on behind it. -/
theorem trees_of_skipOne {n m : Nat} {frames : List Frame} {done : List Tree}
    (h : skipOne cs = some rest) (hn : cs.length < n) (hm : rest.length < m) :
    trees n frames done cs = trees m frames done rest := by
  obtain ⟨n, rfl⟩ := Nat.exists_eq_succ_of_ne_zero (Nat.ne_zero_of_lt hn)
  have hlt := shortens_skipOne h
  have hread : trees (n + 1) frames done cs = trees n frames done rest := by
    rw [trees.eq_def]
    simp only [h]
  rw [hread]
  exact trees_eq_of_length_lt (by omega) hm

/-- What is skipped reads as no tokens. -/
theorem Skipped.trees_eq_nil (h : Skipped cs) {n : Nat} (hn : cs.length < n) :
    trees n [] [] cs = some [] := by
  induction h with
  | nil =>
      obtain ⟨n, rfl⟩ := Nat.exists_eq_succ_of_ne_zero (Nat.ne_zero_of_lt hn)
      rfl
  | skip hskip _ ih =>
      have hlt := shortens_skipOne hskip
      rw [trees_of_skipOne hskip hn (hlt.trans hn)]
      exact ih (hlt.trans hn)

/-- What reads as no tokens is skipped. A token that was read, or a bracket that was opened, would
be among the trees in the end. -/
theorem skipped_of_trees_eq_nil {fuel : Nat} {frames : List Frame} {done : List Tree}
    (h : trees fuel frames done cs = some []) : frames = [] ∧ done = [] ∧ Skipped cs := by
  fun_induction trees fuel frames done cs with
  | case2 fuel frames done cs rest hskip ih =>
      obtain ⟨hframes, hdone, hrest⟩ := ih h
      exact ⟨hframes, hdone, .skip hskip hrest⟩
  | case4 fuel frames done cs hskip doc rest hdoc hreturn ih =>
      obtain ⟨-, hread, -⟩ := ih h
      rw [List.append_eq_nil_iff, List.reverse_eq_nil_iff] at hread
      simp [DocComment.trees] at hread
  | case5 fuel frames done hframes =>
      refine ⟨List.isEmpty_iff.mp hframes, ?_, .nil⟩
      exact List.reverse_eq_nil_iff.mp (Option.some.inj h)
  | case7 fuel frames done c rest l rest' hskip hdoc hplaceholder ih =>
      rw [hplaceholder] at h
      cases (ih h).2.1
  | case8 fuel frames done c rest d hopened hskip hdoc hplaceholder ih =>
      rw [hplaceholder, hopened] at h
      cases (ih h).1
  | case9 fuel done c rest hopened d before outer hskip hdoc hplaceholder hclosed ih =>
      rw [hplaceholder, hopened, hclosed] at h
      simp only [if_true] at h
      cases (ih h).2.1
  | case10 fuel done c rest d hclosed hopened d' before outer hne hskip hdoc hplaceholder =>
      rw [hplaceholder, hopened, hclosed] at h
      simp only [if_neg hne] at h
      cases h
  | case11 fuel done c rest d hclosed hopened hskip hdoc hplaceholder =>
      rw [hplaceholder, hopened, hclosed] at h
      cases h
  | case12 fuel frames done c rest hclosed hopened l rest' hskip hdoc hplaceholder hleaf ih =>
      rw [hplaceholder, hopened, hclosed, hleaf] at h
      cases (ih h).2.1
  | case13 fuel frames done c rest hclosed hopened hskip hdoc hplaceholder hleaf =>
      rw [hplaceholder, hopened, hclosed, hleaf] at h
      cases h
  | case1 | case3 | case6 => cases h

/-- A text without a byte order mark is read from its first character on. -/
theorem lex_eq_trees {s : String} (h : s.toList.head? ≠ some '\ufeff') :
    lex s = trees (s.toList.length + 1) [] [] s.toList := by
  unfold lex
  split
  · next rest hmark => exact absurd (by rw [hmark]; rfl) h
  · rfl

/-- **The texts that read as no tokens are those that are skipped.** -/
theorem lex_eq_nil_iff_skipped {s : String} (h : s.toList.head? ≠ some '\ufeff') :
    lex s = some [] ↔ Skipped s.toList := by
  rw [lex_eq_trees h]
  exact ⟨fun htrees => (skipped_of_trees_eq_nil htrees).2.2,
    fun hskipped => hskipped.trees_eq_nil (Nat.lt_succ_self _)⟩

/-! ### What stands behind it -/

/-- Text behind a line feed does not change what a text begins with, if that has no line feed. -/
theorem startsWith_append {text : String} (htext : '\n' ∉ text.toList) (hcs : '\n' ∈ cs) :
    startsWith text (cs ++ code) = startsWith text cs := by
  unfold startsWith
  generalize text.toList = pattern at htext
  induction pattern generalizing cs with
  | nil => simp
  | cons d pattern ih =>
      rw [List.mem_cons, not_or] at htext
      cases cs with
      | nil => cases hcs
      | cons c cs =>
          rw [List.cons_append, List.isPrefixOf_cons_cons, List.isPrefixOf_cons_cons]
          rcases List.mem_cons.mp hcs with hc | hrest
          · have hne : (d == c) = false := by
              rw [beq_eq_false_iff_ne]
              exact fun hdc => htext.1 (hc.trans hdc.symm)
            rw [hne, Bool.false_and, Bool.false_and]
          · rw [ih hrest htext.2]

/-- A text that stands here still does with text behind it. -/
theorem literally_append {text : String} (h : literally text cs = some rest) :
    literally text (cs ++ code) = some (rest ++ code) := by
  dsimp only [literally] at h ⊢
  split_ifs at h with hprefix
  obtain rfl := Option.some.inj h
  obtain ⟨tail, rfl⟩ := List.isPrefixOf_iff_prefix.mp hprefix
  simp

/-- A line that ends is as long with text behind it. -/
theorem line_append (h : '\n' ∈ cs) : line (cs ++ code) = ((line cs).1, (line cs).2 ++ code) := by
  fun_induction line cs with
  | case1 => cases h
  | case2 => rfl
  | case3 => rfl
  | case4 c rest hfeed hreturn text behind hline ih =>
      have hrest : '\n' ∈ rest := (List.mem_cons.mp h).resolve_left fun hc => hfeed hc.symm
      rw [hline] at ih
      rw [List.cons_append, line, ih hrest]
      · exact hfeed
      · rintro rest' rfl hcode
        cases rest with
        | nil => cases hrest
        | cons d rest =>
            obtain ⟨rfl, -⟩ := List.cons.inj hcode
            exact hreturn rest rfl rfl

/-- A block comment that ends is as long with text behind it. -/
theorem blockBody_append {depth : Nat} {text : List Char}
    (h : blockBody depth cs = some (text, rest)) :
    blockBody depth (cs ++ code) = some (text, rest ++ code) := by
  fun_induction blockBody depth cs generalizing text with
  | case1 => cases h
  | case2 depth tail ih =>
      obtain ⟨⟨inner, behind⟩, hinner, heq⟩ := Option.map_eq_some_iff.mp h
      obtain ⟨rfl, rfl⟩ := Prod.mk.inj heq
      rw [List.cons_append, List.cons_append, blockBody, ih hinner, Option.map_some]
  | case3 depth tail hdepth =>
      obtain ⟨rfl, rfl⟩ := Prod.mk.inj (Option.some.inj h)
      rw [List.cons_append, List.cons_append, blockBody, if_pos hdepth]
  | case4 depth tail hdepth ih =>
      obtain ⟨⟨inner, behind⟩, hinner, heq⟩ := Option.map_eq_some_iff.mp h
      obtain ⟨rfl, rfl⟩ := Prod.mk.inj heq
      rw [List.cons_append, List.cons_append, blockBody, if_neg hdepth, ih hinner, Option.map_some]
  | case5 depth c tail hopens hcloses ih =>
      obtain ⟨⟨inner, behind⟩, hinner, heq⟩ := Option.map_eq_some_iff.mp h
      obtain ⟨rfl, rfl⟩ := Prod.mk.inj heq
      -- a comment that ends goes on behind this character, so no text behind it pairs up with it
      obtain ⟨d, tail, rfl⟩ : ∃ d tail', tail = d :: tail' := by
        cases tail with
        | nil => cases hinner
        | cons d tail => exact ⟨d, tail, rfl⟩
      rw [List.cons_append, blockBody, ih hinner, Option.map_some]
      · rintro rest' rfl hcode
        obtain ⟨rfl, -⟩ := List.cons.inj hcode
        exact hopens tail rfl rfl
      · rintro rest' rfl hcode
        obtain ⟨rfl, -⟩ := List.cons.inj hcode
        exact hcloses tail rfl rfl

/-- **What is skipped up to a line feed** is skipped with any text behind it. -/
theorem skipOne_append (hcs : '\n' ∈ cs) (h : skipOne cs = some rest) :
    skipOne (cs ++ code) = some (rest ++ code) := by
  have hstarts (text : String) (htext : '\n' ∉ text.toList) :
      startsWith text (cs ++ code) = startsWith text cs := startsWith_append htext hcs
  unfold skipOne at h ⊢
  simp only [hstarts "//" (by decide), hstarts "///" (by decide),
    hstarts "////" (by decide), hstarts "//!" (by decide),
    hstarts "/**/" (by decide), hstarts "/*" (by decide),
    hstarts "/**" (by decide), hstarts "/***" (by decide),
    hstarts "/*!" (by decide)]
  split_ifs at h ⊢ with hline hempty hblock
  · obtain rfl := Option.some.inj h
    rw [line_append hcs]
  · obtain ⟨tail, rfl⟩ := eq_append_of_startsWith hempty
    obtain rfl := Option.some.inj h
    simp
  · obtain ⟨⟨text, behind⟩, hcomment, rfl⟩ := Option.map_eq_some_iff.mp h
    obtain ⟨inner, hopening, hbody⟩ := Option.bind_eq_some_iff.mp hcomment
    rw [blockComment, literally_append hopening, Option.bind_some, blockBody_append hbody,
      Option.map_some]
  · cases cs with
    | nil => cases hcs
    | cons c cs =>
        dsimp only at h
        split_ifs at h with hspace
        obtain rfl := Option.some.inj h
        exact if_pos hspace

/-- **Text that is skipped changes nothing** in front of code, if it ends with a line feed. -/
theorem Skipped.trees_append (h : Skipped cs) (hend : ∀ c ∈ cs.getLast?, c = '\n') {n m : Nat}
    {frames : List Frame} {done : List Tree} (hn : (cs ++ code).length < n) (hm : code.length < m) :
    trees n frames done (cs ++ code) = trees m frames done code := by
  induction h generalizing n with
  | nil => exact trees_eq_of_length_lt hn hm
  | @skip cs rest hskip _ ih =>
      obtain ⟨c, tail, rfl, hrest⟩ := exists_suffix_of_skipOne hskip
      have hfeed : '\n' ∈ c :: tail := by
        have hlast := hend _ (List.getLast?_eq_some_getLast (List.cons_ne_nil c tail))
        exact hlast ▸ List.getLast_mem _
      have hstill : ∀ d ∈ rest.getLast?, d = '\n' := by
        intro d hd
        obtain ⟨before, rfl⟩ := hrest
        refine hend d ?_
        rw [← List.cons_append, List.getLast?_append, hd]
        rfl
      have hlt : (rest ++ code).length < n := by
        have hle := hrest.length_le
        simp only [List.length_append, List.length_cons] at hn ⊢
        omega
      rw [trees_of_skipOne (skipOne_append hfeed hskip) hn hlt]
      exact ih hstill hlt

/-- Reading a text that begins with one that is skipped. -/
theorem Skipped.lex_append {s code : String} (h : Skipped s.toList)
    (hend : ∀ c ∈ s.toList.getLast?, c = '\n') (hs : s.toList.head? ≠ some '\ufeff')
    (hcode : code.toList.head? ≠ some '\ufeff') : lex (s ++ code) = lex code := by
  have hmark : (s ++ code).toList.head? ≠ some '\ufeff' := by
    rw [String.toList_append, List.head?_append]
    cases hhead : s.toList.head? with
    | none => exact hcode
    | some c =>
        rw [hhead] at hs
        exact hs
  rw [lex_eq_trees hmark, lex_eq_trees hcode, String.toList_append]
  exact h.trees_append hend (Nat.lt_succ_self _) (Nat.lt_succ_self _)

/-! ### Line comments -/

/-- The rest of a line goes up to the first line feed. A carriage return in front of that belongs to
neither. -/
theorem snd_line {text : List Char} (h : '\n' ∉ text) (behind : List Char) :
    (line (text ++ '\n' :: behind)).2 = '\n' :: behind := by
  induction text with
  | nil => rfl
  | cons c text ih =>
      rw [List.mem_cons, not_or] at h
      rw [List.cons_append]
      unfold line
      split
      · next hempty => cases hempty
      · next hfeed => exact absurd (List.cons.inj hfeed).1.symm h.1
      · next rest hreturn =>
          obtain ⟨-, hrest⟩ := List.cons.inj hreturn
          -- the line feed behind the carriage return is the first one
          cases text with
          | nil => exact hrest.symm
          | cons d text =>
              rw [List.mem_cons, not_or] at h
              exact absurd (List.cons.inj hrest).1.symm h.2.1
      · next hcons =>
          obtain ⟨rfl, rfl⟩ := List.cons.inj hcons
          exact ih h.2

/-- **A line comment goes up to the first line feed**, if a space tells it from documentation. -/
theorem skipOne_lineComment {text : List Char} (h : '\n' ∉ text) (behind : List Char) :
    skipOne ('/' :: '/' :: ' ' :: (text ++ '\n' :: behind)) = some ('\n' :: behind) := by
  have hcomment : '\n' ∉ '/' :: '/' :: ' ' :: text := by simpa using h
  unfold skipOne
  rw [if_pos (by simp [startsWith, List.isPrefixOf])]
  exact congrArg some (snd_line hcomment behind)

/-- Whether a text that begins with a line comment is skipped depends on what is behind its line. -/
theorem skipped_lineComment_iff {text behind : List Char} (h : '\n' ∉ text) :
    Skipped ('/' :: '/' :: ' ' :: (text ++ '\n' :: behind)) ↔ Skipped behind := by
  have hfeed : skipOne ('\n' :: behind) = some behind := by
    have hspace : isSpace '\n' = true := by decide
    unfold skipOne
    simp [startsWith, hspace]
  rw [skipped_iff_of_skipOne (skipOne_lineComment h behind), skipped_iff_of_skipOne hfeed]

end StateMachine.Rust.Lexer
