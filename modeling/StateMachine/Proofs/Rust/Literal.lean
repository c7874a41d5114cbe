import Mathlib.Tactic.IntervalCases
import StateMachine.Rust.Literal
import StateMachine.Rust.Quote

/-!
# String Literals Read Back

A text is written as a string literal with escapes, and a string literal is read with its
escapes resolved. Each escape that is written is read as the character that it was written
for, whatever stands behind it.

## Main results

* `codePointDigits_toDigits`: a hexadecimal number is read as the number.
* `stringValue?_stringLiteral`: **the string literal of a text stands for the text**.
-/

namespace StateMachine.Rust

open Lexer

/-! ### Code points -/

/-- A hexadecimal digit is read as the digit. -/
theorem hexValue_digitChar {n : Nat} (h : n < 16) : hexValue (Nat.digitChar n) = some n := by
  interval_cases n <;> rfl

/-- **A hexadecimal number of at most six digits is read as the number**, behind whatever was
read before. -/
theorem codePointDigits_toDigits (n value count : Nat) (rest : List Char)
    (h : count + (Nat.toDigits 16 n).length ≤ 6) :
    codePointDigits value count (Nat.toDigits 16 n ++ rest) =
      codePointDigits (value * 16 ^ (Nat.toDigits 16 n).length + n)
        (count + (Nat.toDigits 16 n).length) rest := by
  induction n using Nat.strongRecOn generalizing rest with
  | ind n ih =>
      by_cases hsmall : n < 16
      · rw [Nat.toDigits_of_lt_base hsmall] at h ⊢
        have hcount : count ≠ 6 := by
          rintro rfl
          simp at h
        simp [codePointDigits, hexValue_digitChar hsmall, hcount]
      · have hdigits : Nat.toDigits 16 n =
            Nat.toDigits 16 (n / 16) ++ [Nat.digitChar (n % 16)] :=
          Nat.toDigits_of_base_le (by omega) (by omega)
        rw [hdigits, List.length_append, List.length_singleton] at h ⊢
        have hcount : count + (Nat.toDigits 16 (n / 16)).length ≠ 6 := by omega
        have hdigit : hexValue (Nat.digitChar (n % 16)) = some (n % 16) :=
          hexValue_digitChar (Nat.mod_lt _ (by omega))
        have hvalue : (value * 16 ^ (Nat.toDigits 16 (n / 16)).length + n / 16) * 16 + n % 16 =
            value * 16 ^ ((Nat.toDigits 16 (n / 16)).length + 1) + n := by
          have hdivision : n / 16 * 16 + n % 16 = n := Nat.div_add_mod' n 16
          rw [Nat.pow_succ, ← Nat.mul_assoc]
          omega
        rw [List.append_assoc, ih (n / 16) (by omega) _ (by omega), List.singleton_append,
          codePointDigits, hdigit]
        simp only [if_neg hcount, hvalue, Nat.add_assoc]

/-- The code point of a character has at most six hexadecimal digits. -/
theorem length_toDigits_val_le (c : Char) : (Nat.toDigits 16 c.val.toNat).length ≤ 6 := by
  refine (Nat.length_toDigits_le_iff (by omega) (by omega)).mpr ?_
  have := c.valid
  rcases this with h | ⟨-, h⟩ <;> (simp only [UInt32.toNat] at *; omega)

/-- The number of a character is that of a character. -/
theorem isScalar_val (c : Char) : isScalar c.val.toNat = true := by
  have := c.valid
  simp only [UInt32.isValidChar, Nat.isValidChar] at this
  simp only [isScalar, Bool.or_eq_true, Bool.and_eq_true, decide_eq_true_eq]
  omega

/-- A code point in braces is read as the character. -/
theorem escapeValue?_codePoint (c : Char) (rest : List Char) :
    escapeValue? ('u' :: '\x7b' :: (Nat.toDigits 16 c.val.toNat ++ '\x7d' :: rest)) =
      some (c, rest) := by
  have hend : hexValue '\x7d' = none := rfl
  have hread : codePointDigits 0 0 (Nat.toDigits 16 c.val.toNat ++ '\x7d' :: rest) =
      some (c.val.toNat, rest) := by
    rw [codePointDigits_toDigits _ _ _ _ (by simpa using length_toDigits_val_le c)]
    have hscalar : isScalar c.toNat = true := isScalar_val c
    simp [codePointDigits, hend, hscalar]
  simp only [escapeValue?, hread]
  exact congrArg some (Prod.ext (Char.ofNat_toNat c) rfl)

/-! ### Characters -/

/-- A character that is no escape is read as itself. -/
theorem cookedValue?_cons {c : Char} (hquote : c ≠ '"') (hmark : c ≠ '\\') (hreturn : c ≠ '\r')
    (fuel : Nat) (rest : List Char) :
    cookedValue? (fuel + 1) (c :: rest) = (cookedValue? fuel rest).map (c :: ·) := by
  simp [cookedValue?, hmark, hreturn]

/-- An escape is read as the character that it stands for. -/
theorem cookedValue?_escape {e c : Char} {t rest : List Char} (hline : e ≠ '\n')
    (hreturn : e ≠ '\r') (h : escapeValue? (e :: t) = some (c, rest)) (fuel : Nat) :
    cookedValue? (fuel + 1) ('\\' :: e :: t) = (cookedValue? fuel rest).map (c :: ·) := by
  have hread : cookedValue? (fuel + 1) ('\\' :: e :: t) =
      (escapeValue? (e :: t)).bind fun escape =>
        (cookedValue? fuel escape.2).bind fun cs => some (escape.1 :: cs) := by
    simp [cookedValue?, hline, hreturn]
  rw [hread, h]
  cases hrest : cookedValue? fuel rest <;> simp [hrest]

/-- **A quoted character is read as the character.** -/
theorem cookedValue?_quotedChar (c : Char) (fuel : Nat) (rest : List Char) :
    cookedValue? (fuel + 1) ((quotedChar c).toList ++ rest) =
      (cookedValue? fuel rest).map (c :: ·) := by
  unfold quotedChar
  split_ifs with htab hreturn hline hquote hmark hprintable
  · rw [htab]
    exact cookedValue?_escape (by decide) (by decide) rfl fuel
  · rw [hreturn]
    exact cookedValue?_escape (by decide) (by decide) rfl fuel
  · rw [hline]
    exact cookedValue?_escape (by decide) (by decide) rfl fuel
  · rw [hquote]
    exact cookedValue?_escape (by decide) (by decide) rfl fuel
  · rw [hmark]
    exact cookedValue?_escape (by decide) (by decide) rfl fuel
  · rw [String.toList_singleton]
    exact cookedValue?_cons hquote hmark hreturn fuel rest
  · have hlist : (codePointEscape c).toList ++ rest =
        '\\' :: 'u' :: '\x7b' :: (Nat.toDigits 16 c.val.toNat ++ '\x7d' :: rest) := by
      simp [codePointEscape]
    rw [hlist]
    exact cookedValue?_escape (by decide) (by decide) (escapeValue?_codePoint c rest) fuel

/-- A null character is read as such, in the long form and in the short form. -/
theorem cookedValue?_null (isLong : Bool) (fuel : Nat) (rest : List Char) :
    cookedValue? (fuel + 1) ((if isLong then "\\x00" else "\\0").toList ++ rest) =
      (cookedValue? fuel rest).map ('\x00' :: ·) := by
  cases isLong with
  | true => exact cookedValue?_escape (t := '0' :: '0' :: rest) (by decide) (by decide) rfl fuel
  | false => exact cookedValue?_escape (t := rest) (by decide) (by decide) rfl fuel

/-- Quoted characters are read as the characters, up to the quote that ends them. -/
theorem cookedValue?_quotedChars (cs : List Char) {fuel : Nat} (h : cs.length < fuel) :
    cookedValue? fuel ((quotedChars cs).toList ++ ['"']) = some cs := by
  induction cs generalizing fuel with
  | nil =>
      obtain ⟨fuel, rfl⟩ := Nat.exists_eq_succ_of_ne_zero (by omega : fuel ≠ 0)
      rfl
  | cons c rest ih =>
      obtain ⟨fuel, rfl⟩ := Nat.exists_eq_succ_of_ne_zero (by omega : fuel ≠ 0)
      have hrest := ih (by simpa using h)
      rw [quotedChars, String.toList_append, List.append_assoc]
      by_cases hnull : c = '\x00'
      · rw [if_pos hnull, cookedValue?_null, hrest, hnull]
        rfl
      · rw [if_neg hnull, cookedValue?_quotedChar, hrest]
        rfl

/-- A quoted character is at least one character. -/
theorem length_le_length_quotedChars (cs : List Char) :
    cs.length ≤ (quotedChars cs).toList.length := by
  induction cs with
  | nil => exact Nat.zero_le _
  | cons c rest ih =>
      rw [quotedChars, String.toList_append, List.length_append, List.length_cons]
      suffices hpos : 0 < (if c = '\x00' then if startsOctal rest then "\\x00" else "\\0"
          else quotedChar c).toList.length by
        omega
      unfold quotedChar
      split_ifs <;> simp [codePointEscape]

/-- **The string literal of a text stands for the text.** -/
theorem stringValue?_stringLiteral (s : String) : stringValue? (stringLiteral s) = some s := by
  have hlist : (stringLiteral s).toList = '"' :: ((quotedChars s.toList).toList ++ ['"']) := by
    simp [stringLiteral]
  have hfuel := length_le_length_quotedChars s.toList
  unfold stringValue?
  rw [hlist]
  simp only
  rw [cookedValue?_quotedChars _ (by rw [List.length_append]; omega)]
  exact congrArg some String.ofList_toList

end StateMachine.Rust
