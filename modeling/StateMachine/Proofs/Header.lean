import StateMachine.Generation
import StateMachine.Proofs.Program.Parts
import StateMachine.Proofs.Rust.Comment

/-!
# The Head of a Program

A program begins with a comment that names the file of the description. The name is written as it
is, and nothing parses what comes of it, so whether the comment is only a comment depends on the
name. It is, unless the name has a line feed that ends the comment in front of something that is
code.

## Main results

* `Machine.skipped_headComment_iff`: what the name has to be like for the comment to be skipped.
* `head_is_comment_iff`: **no tokens come of the head** if and only if the name is like that, and
  then the text of the program has just the tokens of its code.

## Conventions

The code is any text that does not begin with a byte order mark: whatever writes the checked code
down, the head in front of it is the same.
-/

namespace StateMachine

open Rust

variable {m : Machine} {o : OutputOptions}

/-! ### The comment -/

/-- The name of a file stays in the comment that it stands in: it has no line feed, or what is
behind its first one, together with the rest of the comment, is skipped as well. -/
def StaysInComment (file : String) : Prop :=
  ∀ before after, file.toList = before ++ '\n' :: after → '\n' ∉ before →
    Lexer.Skipped (after ++ ". Do not edit.\n\n".toList)

/-- A head comment is skipped if what is behind its first line is. -/
theorem skipped_generated_iff {text behind : List Char} (h : '\n' ∉ text) :
    Lexer.Skipped ("// Generated by fsmc".toList ++ text ++ '\n' :: behind) ↔
      Lexer.Skipped behind := by
  have htext : '\n' ∉ "Generated by fsmc".toList ++ text := by
    rw [List.mem_append, not_or]
    exact ⟨by decide, h⟩
  rw [List.append_assoc]
  exact Lexer.skipped_lineComment_iff htext

namespace Machine

/-- The comment with the name of a file, around that name. -/
theorem toList_headComment {file : String} (h : m.sourceFile = some file) :
    m.headComment.toList = "// Generated by fsmc".toList ++
      (" from ".toList ++ file.toList) ++ ". Do not edit.\n\n".toList := by
  unfold headComment
  rw [h]
  change ("// Generated by fsmc from " ++ file ++ ". Do not edit.\n\n").toList = _
  rw [String.toList_append, String.toList_append, ← List.append_assoc]
  rfl

/-- The comment of a machine whose file has no name, or a name without a line feed, is skipped. -/
theorem skipped_headComment (h : ∀ file ∈ m.sourceFile, '\n' ∉ file.toList) :
    Lexer.Skipped m.headComment.toList := by
  have hfeed : Lexer.skipOne ['\n'] = some [] := by decide
  have hempty : Lexer.Skipped ['\n'] := .skip hfeed .nil
  cases hfile : m.sourceFile with
  | none =>
      have hhead : m.headComment.toList =
          "// Generated by fsmc".toList ++ ". Do not edit.".toList ++ '\n' :: ['\n'] := by
        unfold headComment
        rw [hfile]
        decide
      rw [hhead, skipped_generated_iff (by decide)]
      exact hempty
  | some file =>
      have htext : '\n' ∉ " from ".toList ++ file.toList ++ ". Do not edit.".toList := by
        simp only [List.mem_append, not_or]
        exact ⟨⟨by decide, h file hfile⟩, by decide⟩
      have hskipped := (skipped_generated_iff htext).mpr hempty
      rw [toList_headComment hfile]
      rwa [← List.append_assoc, List.append_assoc] at hskipped

/-- A line feed in the name of the file ends the comment. -/
theorem skipped_headComment_iff_of_feed {file : String} {before after : List Char}
    (h : m.sourceFile = some file) (hfile : file.toList = before ++ '\n' :: after)
    (hbefore : '\n' ∉ before) :
    Lexer.Skipped m.headComment.toList ↔
      Lexer.Skipped (after ++ ". Do not edit.\n\n".toList) := by
  have htext : '\n' ∉ " from ".toList ++ before := by
    rw [List.mem_append, not_or]
    exact ⟨by decide, hbefore⟩
  refine Iff.trans ?_ (skipped_generated_iff htext)
  rw [toList_headComment h, hfile]
  simp only [List.append_assoc, List.cons_append]

/-- **What the head comment is like** depends on the name of the file. -/
theorem skipped_headComment_iff :
    Lexer.Skipped m.headComment.toList ↔ ∀ file ∈ m.sourceFile, StaysInComment file := by
  constructor
  · intro hskipped file hfile before after hsplit hbefore
    exact (skipped_headComment_iff_of_feed hfile hsplit hbefore).mp hskipped
  · intro hstays
    by_cases hfeed : ∀ file ∈ m.sourceFile, '\n' ∉ file.toList
    · exact skipped_headComment hfeed
    · obtain ⟨file, hfile, hmem⟩ : ∃ file, m.sourceFile = some file ∧ '\n' ∈ file.toList := by
        simpa using hfeed
      obtain ⟨before, after, hsplit, hbefore⟩ := List.eq_append_cons_of_mem hmem
      rw [skipped_headComment_iff_of_feed hfile hsplit hbefore]
      exact hstays file hfile before after hsplit hbefore

/-! ### The head of what was generated -/

/-- The comment begins with a slash, and with no byte order mark. -/
theorem head?_headComment (m : Machine) : m.headComment.toList.head? = some '/' := by
  cases hfile : m.sourceFile with
  | none =>
      unfold headComment
      rw [hfile]
      decide
  | some file =>
      rw [toList_headComment hfile]
      rfl

/-- The comment ends with a line feed. -/
theorem getLast?_headComment (m : Machine) : m.headComment.toList.getLast? = some '\n' := by
  cases hfile : m.sourceFile with
  | none =>
      unfold headComment
      rw [hfile]
      decide
  | some file =>
      rw [toList_headComment hfile, List.getLast?_append]
      rfl

/-- Without a source text, the head is the comment. -/
theorem head_eq_headComment (h : m.source = none) : m.head = m.headComment := by
  unfold head
  rw [h, Option.elim_none, String.append_empty]

/-- **What it takes to generate a program**: the machine is valid, its program can be made, is Rust
as a whole, and can be written. It is written behind the head of the machine. -/
theorem generate_rust_eq_ok_iff {out : Output} :
    m.generate .rust o = .ok out ↔
      ∃ v p lines, m.validate = .ok v ∧ v.program o = .ok p ∧ p.isWellFormed = true ∧
        p.lines? = some lines ∧ out = .rust m.head lines := by
  unfold Machine.generate
  cases hvalid : m.validate with
  | error d => simp
  | ok v =>
      obtain rfl := machine_of_validate hvalid
      dsimp only [Validated.generate]
      simp only [bind_eq_ok_iff, mapError_eq_ok_iff]
      constructor
      · rintro ⟨p, hp, hout⟩
        cases hwell : p.isWellFormed with
        | false =>
            rw [hwell] at hout
            cases hout
        | true =>
            rw [hwell] at hout
            cases hlines : p.lines? with
            | none =>
                rw [hlines] at hout
                cases hout
            | some lines =>
                rw [hlines] at hout
                exact ⟨v, p, lines, rfl, hp, hwell, hlines, (Except.ok.inj hout).symm⟩
      · rintro ⟨v', p, lines, hv, hp, hwell, hlines, rfl⟩
        obtain rfl := Except.ok.inj hv
        refine ⟨p, hp, ?_⟩
        rw [hwell, hlines]
        rfl

/-- What comes of a machine from which anything is generated as a program. -/
theorem exists_rust_of_isSome (h : (m.generate .rust o).toOption.isSome) :
    ∃ lines, m.generate .rust o = .ok (.rust m.head lines) := by
  obtain ⟨out, hout⟩ := Option.isSome_iff_exists.mp h
  obtain ⟨_, _, lines, -, -, -, -, rfl⟩ :=
    generate_rust_eq_ok_iff.mp (toOption_eq_some_iff.mp hout)
  exact ⟨lines, toOption_eq_some_iff.mp hout⟩

end Machine

/-- **The head is only a comment**, unless the name of the file has a line feed that ends it. For a
machine without a source text, from which a program was generated:

* the text in front of the code reads as no tokens if the name of the file has no line feed;
* it does if and only if the name of the file stays in its comment;
* it does if and only if whatever code is behind that text reads as if it stood alone. -/
theorem head_is_comment_iff {head : String} {lines : List String} (hsource : m.source = none)
    (h : m.generate .rust o = .ok (.rust head lines)) :
    ((∀ file ∈ m.sourceFile, '\n' ∉ file.toList) → Lexer.lex head = some []) ∧
      (Lexer.lex head = some [] ↔ ∀ file ∈ m.sourceFile, StaysInComment file) ∧
      (Lexer.lex head = some [] ↔
        ∀ code : String, code.toList.head? ≠ some '\ufeff' →
          Lexer.lex (head ++ code) = Lexer.lex code) := by
  obtain ⟨_, _, _, -, -, -, -, hout⟩ := Machine.generate_rust_eq_ok_iff.mp h
  obtain ⟨rfl, rfl⟩ := Output.rust.inj hout
  rw [Machine.head_eq_headComment hsource]
  have hmark : m.headComment.toList.head? ≠ some '\ufeff' := by
    rw [m.head?_headComment]
    decide
  have hend : ∀ c ∈ m.headComment.toList.getLast?, c = '\n' := by
    simp [m.getLast?_headComment]
  have hlex := Lexer.lex_eq_nil_iff_skipped hmark
  refine ⟨fun hfile => hlex.mpr (Machine.skipped_headComment hfile),
    hlex.trans Machine.skipped_headComment_iff, fun hnil code hcode => ?_, fun hall => ?_⟩
  · exact (hlex.mp hnil).lex_append hend hmark hcode
  · have hempty := hall "" (by decide)
    rw [String.append_empty] at hempty
    exact hempty.trans ((Lexer.lex_eq_nil_iff_skipped (by decide)).mpr .nil)

/-! ### A shelf -/

/-- A machine with one state, from the file of the given name. -/
def shelf (file : String) : Machine :=
  { Machine.setStart
      { context := "Shelf", maps := [{ name := "M", states := [{ className := "A" }] }] }
      "M::A" 1 with
    sourceFile := some file }

/-- The shelf can be put together, whatever the name of the file is. -/
theorem shelf_built (file : String) : (shelf file).Built := by
  have hmap : (Map.mk "M" 0 [{ className := "A" }] none).Built :=
    .addState (.new "M" 0) (.new "A" 0) (Map.addState_eq_ok_iff.mpr (.inr ⟨rfl, rfl, rfl⟩))
  exact .declare none none (some file) none [] [] []
    (.setStart "M::A" 1 (.addMap (.new "Shelf") hmap rfl))

/-- **Control characters** that end no line, and the end of a block comment, stay in the head
comment. -/
theorem control_characters_stay_in_head :
    ∃ head lines,
      (shelf "books\r\t\x00*/.fsm").source = none ∧
        (shelf "books\r\t\x00*/.fsm").generate .rust {} = .ok (.rust head lines) ∧
        Lexer.lex head = some [] ∧
        ∀ code : String, code.toList.head? ≠ some '\ufeff' →
          Lexer.lex (head ++ code) = Lexer.lex code := by
  obtain ⟨lines, h⟩ := Machine.exists_rust_of_isSome
    (m := shelf "books\r\t\x00*/.fsm") (o := {}) (by decide +kernel)
  obtain ⟨hnil, -, hcode⟩ := head_is_comment_iff rfl h
  have hlex := hnil fun file hfile => by
    obtain rfl := Option.some.inj hfile
    decide
  exact ⟨_, lines, rfl, h, hlex, hcode.mp hlex⟩

/-- **A line feed ends the head comment**, and the rest of the line is in front of the code as
tokens that nothing has checked. -/
theorem line_feed_ends_head_comment :
    (shelf "a\nb").Built ∧ (shelf "a\nb").source = none ∧
      (∃ lines, (shelf "a\nb").generate .rust {} =
        .ok (.rust "// Generated by fsmc from a\nb. Do not edit.\n\n" lines)) ∧
      Lexer.lex "// Generated by fsmc from a\nb. Do not edit.\n\n" =
        some [.leaf (.ident ⟨"b", false⟩), .leaf (.punct '.' false), .leaf (.ident ⟨"Do", false⟩),
          .leaf (.ident ⟨"not", false⟩), .leaf (.ident ⟨"edit", false⟩),
          .leaf (.punct '.' false)] := by
  refine ⟨shelf_built _, rfl, ?_, by rfl⟩
  exact Machine.exists_rust_of_isSome (m := shelf "a\nb") (o := {}) (by decide +kernel)

end StateMachine
