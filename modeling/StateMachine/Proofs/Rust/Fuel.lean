import Mathlib.Data.List.TakeWhile
import StateMachine.Rust.Lexer

/-!
# The Lexer Has Fuel Enough

The lexer repeats itself on fuel. Each of its scanners takes a character at least, so there are
never more steps than characters, and a text is read in the same way with any fuel beyond its length.

## Conventions

`Shortens scan` says that fewer characters are left where the scanner succeeds. For what gives a
token besides the characters behind it, the same is said of these.

## Main results

* `length_leaf_lt`, `exists_suffix_of_skipOne`, `length_docComment_lt`: nothing is read and nothing
  skipped without taking a character.
* `trees_eq_of_length_lt`: **fuel beyond the length of the text makes no difference**.
-/

namespace StateMachine.Rust.Lexer

open Text

variable {cs rest : List Char}

/-- Where the scanner succeeds, it leaves fewer characters than it was given. -/
def Shortens (scan : Scan) : Prop :=
  ∀ ⦃cs rest⦄, scan cs = some rest → rest.length < cs.length

/-! ### Texts and words -/

/-- A text that stands here is as long as what is taken. -/
theorem length_literally {text : String} (h : literally text cs = some rest) :
    rest.length + text.length = cs.length := by
  dsimp only [literally] at h
  split_ifs at h with hprefix
  obtain rfl := Option.some.inj h
  have hle := (List.isPrefixOf_iff_prefix.mp hprefix).length_le
  rw [List.length_drop, ← String.length_toList]
  omega

/-- A word is not empty. -/
theorem length_word_lt {text : String} (h : word cs = some (text, rest)) :
    rest.length < cs.length := by
  unfold word at h
  split at h
  · next c tail =>
      split_ifs at h
      obtain ⟨-, rfl⟩ := Prod.mk.inj (Option.some.inj h)
      exact Nat.lt_succ_of_le (tail.length_dropWhile_le isIdentifierContinue)
  · cases h

/-- Nor is an identifier, raw or not. -/
theorem length_anyIdent_lt {i : Ident} (h : anyIdent cs = some (i, rest)) :
    rest.length < cs.length := by
  unfold anyIdent at h
  split at h
  · next behind hraw =>
      obtain ⟨⟨text, behind'⟩, hword, h⟩ := Option.bind_eq_some_iff.mp h
      dsimp only at h
      split_ifs at h
      obtain ⟨-, rfl⟩ := Prod.mk.inj (Option.some.inj h)
      have hbehind := length_literally hraw
      have hrest := length_word_lt hword
      omega
  · obtain ⟨⟨text, behind'⟩, hword, h⟩ := Option.map_eq_some_iff.mp h
    obtain ⟨-, rfl⟩ := Prod.mk.inj h
    exact length_word_lt hword

/-- A suffix may be empty. -/
theorem length_skipSuffix_le (cs : List Char) : (skipSuffix cs).length ≤ cs.length := by
  unfold skipSuffix
  split
  · next h => exact (length_word_lt h).le
  · exact le_rfl

/-- A suffix behind what was read leaves fewer characters still. -/
theorem Shortens.map_skipSuffix {scan : Scan} (h : Shortens scan) :
    Shortens fun cs => (scan cs).map skipSuffix := by
  intro cs rest hscan
  obtain ⟨behind, hbehind, rfl⟩ := Option.map_eq_some_iff.mp hscan
  exact (length_skipSuffix_le behind).trans_lt (h hbehind)

/-- So does what must not go on as a word. -/
theorem Shortens.bind_wordBreak {scan : Scan} (h : Shortens scan) :
    Shortens fun cs => (scan cs).bind wordBreak := by
  intro cs rest hscan
  obtain ⟨behind, hbehind, hbreak⟩ := Option.bind_eq_some_iff.mp hscan
  have hsame : behind = rest := by
    unfold wordBreak at hbreak
    split at hbreak
    · split_ifs at hbreak
      exact Option.some.inj hbreak
    · exact Option.some.inj hbreak
  exact hsame ▸ h hbehind

/-- So does what is read behind a text. -/
theorem Shortens.literally_bind {scan : Scan} (text : String) (h : Shortens scan) :
    Shortens fun cs => (literally text cs).bind scan := by
  intro cs rest hscan
  obtain ⟨behind, hbehind, hrest⟩ := Option.bind_eq_some_iff.mp hscan
  have hlength := length_literally hbehind
  have hlt := h hrest
  omega

/-! ### Strings and characters -/

/-- White space at the end of a line is skipped, if there is any. -/
theorem length_skipContinuation_le (h : skipContinuation cs = some rest) :
    rest.length ≤ cs.length := by
  fun_induction skipContinuation cs <;> grind

/-- A code point has a closing brace. -/
theorem length_codePointDigits_lt {value count n : Nat}
    (h : codePointDigits value count cs = some (n, rest)) : rest.length < cs.length := by
  fun_induction codePointDigits value count cs <;> grind

/-- Both digits of an escape are taken. -/
theorem shortens_hexEscape (q : Quoted) : Shortens (hexEscape q) := by
  intro cs rest h
  unfold hexEscape at h
  grind

/-- So is the opening brace. -/
theorem shortens_codePoint (q : Quoted) : Shortens (codePoint q) := by
  intro cs rest h
  unfold codePoint at h
  split at h
  · next tail =>
      obtain ⟨⟨value, behind⟩, hdigits, h⟩ := Option.bind_eq_some_iff.mp h
      have hlt := length_codePointDigits_lt hdigits
      grind
  · cases h

/-- An escape has a character behind its backslash. -/
theorem shortens_escape (q : Quoted) : Shortens (escape q) := by
  intro cs rest h
  unfold escape at h
  split at h
  · exact (shortens_hexEscape q h).trans (Nat.lt_succ_self _)
  · split_ifs at h
    exact (shortens_codePoint q h).trans (Nat.lt_succ_self _)
  · split_ifs at h
    exact Option.some.inj h ▸ Nat.lt_succ_self _
  · cases h

/-- A quoted text has a closing quote. -/
theorem shortens_quotedBody (q : Quoted) (fuel : Nat) : Shortens (quotedBody q fuel) := by
  induction fuel with
  | zero => exact fun cs rest h => nomatch h
  | succ fuel ih =>
      have hcontinue {tail rest : List Char}
          (h : (skipContinuation tail).bind (quotedBody q fuel) = some rest) :
          rest.length < tail.length := by
        obtain ⟨behind, hskip, hbody⟩ := Option.bind_eq_some_iff.mp h
        exact (ih hbody).trans_le (length_skipContinuation_le hskip)
      intro cs rest h
      unfold quotedBody at h
      split at h
      · cases h
      · exact Option.some.inj h ▸ Nat.lt_succ_self _
      · have hrest := ih h
        grind
      · cases h
      · have hrest := hcontinue h
        grind
      · have hrest := hcontinue h
        grind
      · obtain ⟨behind, hescape, hbody⟩ := Option.bind_eq_some_iff.mp h
        exact ((ih hbody).trans (shortens_escape q hescape)).trans (Nat.lt_succ_self _)
      · split_ifs at h
        exact (ih h).trans (Nat.lt_succ_self _)

/-- So has a raw text. -/
theorem shortens_rawQuoted (q : Quoted) : Shortens (rawQuoted q) := by
  have hbody (marks : List Char) : Shortens (rawBody q marks) := by
    intro cs rest h
    fun_induction rawBody q marks cs <;> grind
  intro cs rest h
  unfold rawQuoted at h
  split at h
  · next tail hquote =>
      dsimp only at h
      split_ifs at h
      have htail := cs.length_dropWhile_le (· = '#')
      have hrest := hbody _ h
      rw [hquote, List.length_cons] at htail
      omega
  · cases h

/-- A string literal shortens what is there, cooked or raw. -/
theorem shortens_stringOf (q : Quoted) (cooked raw : String) (fuel : Nat) :
    Shortens (stringOf q cooked raw fuel) := by
  intro cs rest h
  unfold stringOf at h
  split at h
  · next behind hcooked =>
      have hbehind := length_literally hcooked
      have hrest := (shortens_quotedBody q fuel).map_skipSuffix h
      omega
  · exact ((shortens_rawQuoted q).literally_bind raw).map_skipSuffix h

/-- So does a character between quotes. -/
theorem shortens_quotedChar (q : Quoted) : Shortens (quotedChar q) := by
  intro cs rest h
  dsimp only [quotedChar] at h
  split at h
  · next behind hone =>
      have hsuffix := length_skipSuffix_le behind
      obtain rfl := Option.some.inj h
      have hbehind : behind.length + 1 < cs.length := by
        split at hone
        · exact (shortens_escape q hone).trans (Nat.lt_succ_self _)
        · split_ifs at hone
          grind
        · cases hone
      omega
  · cases h

/-! ### Numbers -/

/-- The digits behind an exponent mark. -/
theorem length_exponentDigits_le {hasSign hasDigit : Bool}
    (h : exponentDigits hasSign hasDigit cs = some rest) : rest.length ≤ cs.length := by
  fun_induction exponentDigits hasSign hasDigit cs <;> grind

/-- Digits without an exponent behind them. -/
theorem length_mantissa_plain_le {hasDot hasDot' : Bool}
    (h : mantissa hasDot cs = some (.plain hasDot' rest)) : rest.length ≤ cs.length := by
  fun_induction mantissa hasDot cs <;> grind

/-- Digits with an exponent mark behind them. -/
theorem length_mantissa_exponent_le {hasDot hasDot' : Bool} {mark : List Char}
    (h : mantissa hasDot cs = some (.exponent hasDot' mark rest)) :
    mark.length ≤ cs.length ∧ rest.length ≤ cs.length := by
  fun_induction mantissa hasDot cs <;> grind

/-- A number with a point or an exponent begins with a digit. -/
theorem shortens_float : Shortens float := by
  have hdigits : Shortens floatDigits := by
    intro cs rest h
    unfold floatDigits at h
    split at h
    · cases h
    · next c tail =>
        split_ifs at h
        split at h
        · cases h
        · next hasDot behind hmantissa =>
            split_ifs at h
            exact Option.some.inj h ▸ Nat.lt_succ_of_le (length_mantissa_plain_le hmantissa)
        · next hasDot mark behind hmantissa =>
            obtain ⟨hmark, hbehind⟩ := length_mantissa_exponent_le hmantissa
            split at h
            · next hexponent =>
                obtain rfl := Option.some.inj h
                exact Nat.lt_succ_of_le ((length_exponentDigits_le hexponent).trans hbehind)
            · split_ifs at h
              exact Option.some.inj h ▸ Nat.lt_succ_of_le hmark
  exact hdigits.map_skipSuffix.bind_wordBreak

/-- The digits of a whole number, which may be none if there were some before. -/
theorem length_baseDigits_le {base : Nat} {empty : Bool}
    (h : baseDigits base empty cs = some rest) : rest.length ≤ cs.length := by
  fun_induction baseDigits base empty cs <;> grind

/-- At least one digit. -/
theorem shortens_baseDigits (base : Nat) : Shortens (baseDigits base true) := by
  intro cs rest h
  induction cs with
  | nil => cases h
  | cons c tail ih =>
      have hdigit : baseDigits base false tail = some rest → rest.length < (c :: tail).length :=
        fun h => Nat.lt_succ_of_le (length_baseDigits_le h)
      unfold baseDigits at h
      grind

/-- A whole number has digits. -/
theorem shortens_whole : Shortens whole := by
  have hdigits : Shortens wholeDigits := by
    intro cs rest h
    have hbase {base : Nat} {behind : List Char} (text : String)
        (hmark : literally text cs = some behind) (h : baseDigits base true behind = some rest) :
        rest.length < cs.length := by
      have hlength := length_literally hmark
      have hlt := shortens_baseDigits base h
      omega
    unfold wholeDigits at h
    split at h
    · next hmark => exact hbase "0x" hmark h
    · next hmark => exact hbase "0o" hmark h
    · next hmark => exact hbase "0b" hmark h
    · exact shortens_baseDigits 10 h
  exact hdigits.map_skipSuffix.bind_wordBreak

/-! ### Tokens -/

/-- **No literal is empty.** -/
theorem shortens_of_mem_literalScanners {fuel : Nat} {scanner : LiteralKind × Scan}
    (h : scanner ∈ literalScanners fuel) : Shortens scanner.2 := by
  simp only [literalScanners, List.mem_cons, List.not_mem_nil, or_false] at h
  rcases h with rfl | rfl | rfl | rfl | rfl | rfl | rfl
  · exact shortens_stringOf _ _ _ _
  · exact shortens_stringOf _ _ _ _
  · exact shortens_stringOf _ _ _ _
  · exact (shortens_quotedChar _).literally_bind _
  · exact (shortens_quotedChar _).literally_bind _
  · exact shortens_float
  · exact shortens_whole

/-- What the first of the scanners to succeed finds is not empty either. -/
theorem length_firstLiteral_lt {scanners : List (LiteralKind × Scan)} {l : Leaf}
    (hscanners : ∀ scanner ∈ scanners, Shortens scanner.2)
    (h : firstLiteral cs scanners = some (l, rest)) : rest.length < cs.length := by
  induction scanners with
  | nil => cases h
  | cons scanner others ih =>
      obtain ⟨hscanner, hothers⟩ := List.forall_mem_cons.mp hscanners
      unfold firstLiteral at h
      split at h
      · next behind hscan =>
          obtain ⟨-, rfl⟩ := Prod.mk.inj (Option.some.inj h)
          exact hscanner hscan
      · exact ih hothers h

/-- A placeholder is not empty. -/
theorem length_placeholder?_lt {l : Leaf} (h : placeholder? cs = some (l, rest)) :
    rest.length < cs.length := by
  obtain ⟨behind, hbehind, heq⟩ := Option.map_eq_some_iff.mp h
  obtain ⟨-, rfl⟩ := Prod.mk.inj heq
  have hlength := length_literally hbehind
  have hpos : 0 < placeholder.length := by decide
  omega

/-- Nor is a punctuation character or a lifetime. -/
theorem length_punct_lt {l : Leaf} (h : punct cs = some (l, rest)) : rest.length < cs.length := by
  unfold punct at h
  split_ifs at h
  split at h
  · next tail =>
      unfold lifetime at h
      obtain ⟨⟨i, behind⟩, hident, h⟩ := Option.bind_eq_some_iff.mp h
      have hbehind := length_anyIdent_lt hident
      grind
  · obtain ⟨-, rfl⟩ := Prod.mk.inj (Option.some.inj h)
    exact Nat.lt_succ_self _
  · cases h

/-- **A token is not empty.** -/
theorem length_leaf_lt {fuel : Nat} {l : Leaf} (h : leaf fuel cs = some (l, rest)) :
    rest.length < cs.length := by
  unfold leaf at h
  split at h
  · next hliteral =>
      obtain rfl := Option.some.inj h
      exact length_firstLiteral_lt (fun _ => shortens_of_mem_literalScanners) hliteral
  · split at h
    · next hpunct =>
        obtain rfl := Option.some.inj h
        exact length_punct_lt hpunct
    · obtain ⟨⟨i, behind⟩, hident, h⟩ := Option.map_eq_some_iff.mp h
      obtain ⟨-, rfl⟩ := Prod.mk.inj h
      unfold ident at hident
      split_ifs at hident
      exact length_anyIdent_lt hident

/-! ### Comments -/

/-- What begins with a text is that text with something behind it. -/
theorem eq_append_of_startsWith {text : String} (h : startsWith text cs = true) :
    ∃ tail, cs = text.toList ++ tail := by
  obtain ⟨tail, htail⟩ := List.isPrefixOf_iff_prefix.mp h
  exact ⟨tail, htail.symm⟩

/-- What is behind the rest of a line is the end of the text. -/
theorem line_suffix (cs : List Char) : (line cs).2 <:+ cs := by
  fun_induction line cs with
  | case1 => exact List.suffix_rfl
  | case2 tail => exact List.suffix_rfl
  | case3 tail => exact List.suffix_cons _ _
  | case4 c tail _ _ text behind hline ih =>
      rw [hline] at ih
      exact ih.trans (List.suffix_cons c tail)

/-- So is what is behind a block comment. -/
theorem blockBody_suffix {depth : Nat} {text : List Char}
    (h : blockBody depth cs = some (text, rest)) : rest <:+ cs := by
  have hcons (c : Char) {tail : List Char} (h : rest <:+ tail) : rest <:+ c :: tail :=
    h.trans (List.suffix_cons c tail)
  fun_induction blockBody depth cs generalizing text with
  | case1 => cases h
  | case2 depth tail ih | case4 depth tail _ ih =>
      obtain ⟨⟨inner, behind⟩, hinner, heq⟩ := Option.map_eq_some_iff.mp h
      obtain ⟨-, rfl⟩ := Prod.mk.inj heq
      exact hcons _ (hcons _ (ih hinner))
  | case3 depth tail hdepth =>
      obtain ⟨-, rfl⟩ := Prod.mk.inj (Option.some.inj h)
      exact hcons _ (hcons _ List.suffix_rfl)
  | case5 depth c tail _ _ ih =>
      obtain ⟨⟨inner, behind⟩, hinner, heq⟩ := Option.map_eq_some_iff.mp h
      obtain ⟨-, rfl⟩ := Prod.mk.inj heq
      exact hcons c (ih hinner)

/-- A block comment has an opening. -/
theorem exists_suffix_of_blockComment {text : List Char}
    (h : blockComment cs = some (text, rest)) :
    ∃ tail, cs = '/' :: '*' :: tail ∧ rest <:+ tail := by
  obtain ⟨behind, hopening, hbody⟩ := Option.bind_eq_some_iff.mp h
  dsimp only [literally] at hopening
  split_ifs at hopening with hprefix
  obtain ⟨tail, rfl⟩ := List.isPrefixOf_iff_prefix.mp hprefix
  obtain rfl : tail = behind := Option.some.inj hopening
  exact ⟨tail, rfl, blockBody_suffix hbody⟩

/-- **What is skipped is a character at least**, and the end of the text is left. -/
theorem exists_suffix_of_skipOne (h : skipOne cs = some rest) :
    ∃ c tail, cs = c :: tail ∧ rest <:+ tail := by
  unfold skipOne at h
  split_ifs at h with hline hempty hblock
  · simp only [Bool.and_eq_true] at hline
    obtain ⟨tail, rfl⟩ := eq_append_of_startsWith hline.1.1
    -- no line ends with the first slash
    have hrest : rest = (line ('/' :: tail)).2 := (Option.some.inj h).symm
    exact ⟨'/', '/' :: tail, rfl, hrest ▸ line_suffix _⟩
  · obtain ⟨tail, rfl⟩ := eq_append_of_startsWith hempty
    obtain rfl : tail = rest := Option.some.inj h
    exact ⟨'/', '*' :: '*' :: '/' :: tail, rfl, List.suffix_append ['*', '*', '/'] tail⟩
  · obtain ⟨⟨text, behind⟩, hcomment, rfl⟩ := Option.map_eq_some_iff.mp h
    obtain ⟨tail, rfl, hbehind⟩ := exists_suffix_of_blockComment hcomment
    exact ⟨'/', '*' :: tail, rfl, hbehind.trans (List.suffix_cons '*' tail)⟩
  · split at h
    · next c tail =>
        split_ifs at h
        obtain rfl := Option.some.inj h
        exact ⟨c, tail, rfl, List.suffix_rfl⟩
    · cases h

/-- Skipping shortens what is there. -/
theorem shortens_skipOne : Shortens skipOne := by
  intro cs rest h
  obtain ⟨c, tail, rfl, hrest⟩ := exists_suffix_of_skipOne h
  exact Nat.lt_succ_of_le hrest.length_le

/-- **No documentation comment is empty.** -/
theorem length_docComment_lt {d : DocComment} (h : docComment cs = some (d, rest)) :
    rest.length < cs.length := by
  have hline {text : String} (hstarts : startsWith text cs = true) (hlength : 0 < text.length) :
      (line (cs.drop 3)).2.length < cs.length := by
    obtain ⟨tail, htail⟩ := eq_append_of_startsWith hstarts
    have hcs : 0 < cs.length := by
      rw [htail, List.length_append, String.length_toList]
      omega
    have hle := (line_suffix (cs.drop 3)).length_le
    rw [List.length_drop] at hle
    omega
  have hblock {f : List Char × List Char → DocComment × List Char}
      (hf : ∀ read, (f read).2 = read.2) (h : (blockComment cs).map f = some (d, rest)) :
      rest.length < cs.length := by
    obtain ⟨⟨text, behind⟩, hcomment, heq⟩ := Option.map_eq_some_iff.mp h
    obtain rfl : behind = rest := (hf (text, behind)).symm.trans (congrArg Prod.snd heq)
    obtain ⟨tail, rfl, hbehind⟩ := exists_suffix_of_blockComment hcomment
    exact hbehind.length_le.trans_lt ((Nat.lt_succ_self _).trans (Nat.lt_succ_self _))
  dsimp only [docComment] at h
  split_ifs at h with hinner hinnerBlock houter houterBlock
  · obtain ⟨-, rfl⟩ := Prod.mk.inj (Option.some.inj h)
    exact hline hinner (by decide)
  · exact hblock (fun _ => rfl) h
  · obtain ⟨-, rfl⟩ := Prod.mk.inj (Option.some.inj h)
    simp only [Bool.and_eq_true] at houter
    exact hline houter.1 (by decide)
  · exact hblock (fun _ => rfl) h

/-! ### Fuel -/

/-- A quoted text is read in the same way with fuel for each of its characters. -/
theorem quotedBody_eq_of_length_le {q : Quoted} {n m : Nat} (hn : cs.length ≤ n)
    (hm : cs.length ≤ m) : quotedBody q n cs = quotedBody q m cs := by
  induction n generalizing m cs with
  | zero =>
      obtain rfl := List.length_eq_zero_iff.mp (Nat.le_zero.mp hn)
      cases m <;> rfl
  | succ n ih =>
      cases m with
      | zero =>
          obtain rfl := List.length_eq_zero_iff.mp (Nat.le_zero.mp hm)
          rfl
      | succ m =>
          have hread {tail : List Char} (hlt : tail.length < cs.length) :
              quotedBody q n tail = quotedBody q m tail := ih (by omega) (by omega)
          unfold quotedBody
          split
          · rfl
          · rfl
          · exact hread ((Nat.lt_succ_self _).trans (Nat.lt_succ_self _))
          · rfl
          · refine Option.bind_congr fun behind hskip => hread ?_
            have hbehind := length_skipContinuation_le hskip
            simp only [List.length_cons]
            omega
          · refine Option.bind_congr fun behind hskip => hread ?_
            have hbehind := length_skipContinuation_le hskip
            simp only [List.length_cons]
            omega
          · refine Option.bind_congr fun behind hescape => hread ?_
            exact (shortens_escape q hescape).trans (Nat.lt_succ_self _)
          · split_ifs
            · exact hread (Nat.lt_succ_self _)
            · rfl

/-- So is a token. -/
theorem leaf_eq_of_length_le {n m : Nat} (hn : cs.length ≤ n) (hm : cs.length ≤ m) :
    leaf n cs = leaf m cs := by
  have hstring (q : Quoted) (cooked raw : String) :
      stringOf q cooked raw n cs = stringOf q cooked raw m cs := by
    unfold stringOf
    split
    · next behind hcooked =>
        have hbehind := length_literally hcooked
        rw [quotedBody_eq_of_length_le (n := n) (m := m) (by omega) (by omega)]
    · rfl
  have hliteral : literal n cs = literal m cs := by
    simp only [literal, literalScanners, firstLiteral, hstring]
  rw [leaf, leaf, hliteral]

/-- **Fuel beyond the length of the text makes no difference.** -/
theorem trees_eq_of_length_lt {n m : Nat} {frames : List Frame} {done : List Tree}
    (hn : cs.length < n) (hm : cs.length < m) :
    trees n frames done cs = trees m frames done cs := by
  induction n generalizing m cs frames done with
  | zero => exact absurd hn (Nat.not_lt_zero _)
  | succ n ih =>
      obtain ⟨m, rfl⟩ := Nat.exists_eq_succ_of_ne_zero (Nat.ne_zero_of_lt hm)
      have hread {rest : List Char} {frames : List Frame} {done : List Tree}
          (hlt : rest.length < cs.length) : trees n frames done rest = trees m frames done rest :=
        ih (by omega) (by omega)
      unfold trees
      rw [leaf_eq_of_length_le (n := n) (m := m) (by omega) (by omega)]
      split
      · next hskip => exact hread (shortens_skipOne hskip)
      split
      · next hdoc =>
          split_ifs
          · rfl
          · exact hread (length_docComment_lt hdoc)
      split
      · rfl
      split
      · next hplaceholder => exact hread (length_placeholder?_lt hplaceholder)
      · exact hread (Nat.lt_succ_self _)
      · split
        · split_ifs
          · exact hread (Nat.lt_succ_self _)
          · rfl
        · rfl
      · split
        · next hleaf => exact hread (length_leaf_lt hleaf)
        · rfl

end StateMachine.Rust.Lexer
