import Mathlib.Data.Nat.Digits.Defs
import TexWorkspace.Json.Scan
import TexWorkspace.Text.Cut

set_option autoImplicit false

/-!
The words of JSON text: blanks, the characters of strings, and numbers. The digits of a number from
0 to `maxNatural` give that number.
-/

namespace TexWorkspace.Json

/-! ## Blanks -/

theorem isBlank_iff {c : Char} : isBlank c = true ↔ c = ' ' ∨ c = '\n' ∨ c = '\t' ∨ c = '\r' := by
  simp [isBlank, or_assoc]

theorem skipBlanks_cons {c : Char} (visible : isBlank c = false) (rest : List Char) :
    skipBlanks (c :: rest) = c :: rest := by
  simp [skipBlanks, visible]

theorem skipBlanks_append {blanks : List Char} (blank : ∀ c ∈ blanks, isBlank c = true)
    (rest : List Char) : skipBlanks (blanks ++ rest) = skipBlanks rest :=
  List.dropWhile_append_of_pos blank

/-! ## Strings -/

theorem stringBody_quote (rest : List Char) : stringBody ('"' :: rest) = .ok ([], rest) := by
  rw [stringBody, if_pos rfl]

theorem stringBody_escape {chars after : List Char} {meant : Char}
    (read : escape chars = .ok (meant, after)) :
    stringBody ('\\' :: chars) =
      (stringBody after).map fun (body, left) => (meant :: body, left) := by
  rw [stringBody, if_neg (by decide), if_pos rfl]
  split
  · rename_i fault failed
    cases read.symm.trans failed
  · rename_i other rest found
    cases read.symm.trans found
    rfl

theorem stringBody_plain {c : Char} (noQuote : c ≠ '"') (noEscape : c ≠ '\\')
    (visible : ¬ c.toNat < 0x20) (chars : List Char) :
    stringBody (c :: chars) = (stringBody chars).map fun (body, left) => (c :: body, left) := by
  rw [stringBody, if_neg noQuote, if_neg noEscape, if_neg visible]

/-! ## Numbers -/

/-- What can stand behind a value: nothing, a blank, a comma or the end of a frame. -/
def Ends (rest : List Char) : Prop :=
  ∀ c ∈ rest.head?, isBlank c = true ∨ c = ',' ∨ c = ']' ∨ c = '}'

theorem Ends.nil : Ends [] := by
  intro c first
  cases first

/-- What stands behind a value does not belong to it. -/
theorem Ends.head_ne {rest : List Char} (ends : Ends rest) :
    ∀ c ∈ rest.head?, c.isDigit = false ∧ c ≠ '.' ∧ c ≠ 'e' ∧ c ≠ 'E' := by
  intro c first
  rcases ends c first with blank | rfl | rfl | rfl
  · rcases isBlank_iff.mp blank with rfl | rfl | rfl | rfl <;> decide
  all_goals decide

theorem digitValue_digitChar : ∀ n < 10, (Nat.digitChar n).toNat - '0'.toNat = n := by
  decide

theorem addDigits_toDigits {bound n : Nat} (fits : n ≤ bound) (more : List Char) :
    addDigits bound 0 (Nat.toDigits 10 n ++ more) = addDigits bound n more := by
  induction n using Nat.strong_induction_on generalizing more with
  | _ n ih =>
    by_cases single : n < 10
    · rw [Nat.toDigits_of_lt_base single, List.singleton_append, addDigits,
        digitValue_digitChar n single, Nat.zero_mul, Nat.zero_add, if_pos fits]
    · have front : n / 10 < n := by omega
      have last : n / 10 * 10 + n % 10 = n := by omega
      rw [Nat.toDigits_of_base_le (by decide) (by omega), List.append_assoc,
        ih (n / 10) front (by omega), List.singleton_append, addDigits,
        digitValue_digitChar (n % 10) (by omega), last, if_pos fits]

/-- Only the number zero starts with a zero. -/
theorem toDigits_head_ne {n : Nat} (positive : 0 < n) : (Nat.toDigits 10 n).head? ≠ some '0' := by
  induction n using Nat.strong_induction_on with
  | _ n ih =>
    by_cases single : n < 10
    · have first : ∀ digit < 10, 0 < digit → (Nat.digitChar digit) ≠ '0' := by decide
      rw [Nat.toDigits_of_lt_base single]
      intro zero
      exact first n single positive (Option.some.inj zero)
    · have front := ih (n / 10) (by omega) (by omega)
      rw [Nat.toDigits_of_base_le (by decide) (by omega)]
      cases digits : Nat.toDigits 10 (n / 10) with
      | nil => exact absurd digits Nat.toDigits_ne_nil
      | cons first more => rwa [digits] at front

theorem isDigit_toDigits (n : Nat) : ∀ c ∈ Nat.toDigits 10 n, c.isDigit = true := by
  intro c member
  exact Nat.isDigit_of_mem_toDigits (by decide) (by decide) member

theorem takeWhile_toDigits (n : Nat) {rest : List Char} (ends : Ends rest) :
    (Nat.toDigits 10 n ++ rest).takeWhile Char.isDigit = Nat.toDigits 10 n ∧
      (Nat.toDigits 10 n ++ rest).dropWhile Char.isDigit = rest := by
  refine Text.takeWhile_append_of_ends (isDigit_toDigits n) ?_
  intro c first
  exact (ends.head_ne c first).1

theorem number_toDigits {n : Nat} (fits : n ≤ maxNatural) {rest : List Char}
    (ends : Ends rest) :
    number true (Nat.toDigits 10 n ++ rest) = .ok (.natural n, rest) := by
  obtain ⟨taken, left⟩ := takeWhile_toDigits n ends
  have value : addDigits maxNatural 0 (Nat.toDigits 10 n) = (n, []) := by
    have added := addDigits_toDigits fits []
    rwa [List.append_nil] at added
  have unsigned : rest.head? ≠ some 'e' ∧ rest.head? ≠ some 'E' := by
    constructor
    · intro exponent
      exact (ends.head_ne 'e' exponent).2.2.1 rfl
    · intro exponent
      exact (ends.head_ne 'E' exponent).2.2.2 rfl
  have plain : ∀ first more, Nat.toDigits 10 n = first :: more →
      (first = '0' && !more.isEmpty) = false := by
    intro first more digits
    cases more with
    | nil => simp
    | cons second more =>
        have positive : 0 < n := by
          by_contra zero
          obtain rfl : n = 0 := by omega
          cases digits
        have head := toDigits_head_ne positive
        rw [digits] at head
        simpa using head
  unfold number
  rw [taken, left]
  cases digits : Nat.toDigits 10 n with
  | nil => exact absurd digits Nat.toDigits_ne_nil
  | cons first more =>
      simp only [← digits, value, plain first more digits, Bool.false_eq_true, if_false]
      split
      · exact absurd rfl (ends.head_ne '.' rfl).2.1
      · rw [if_pos]
        · rfl
        · simpa using unsigned

end TexWorkspace.Json
