/-
This file relates numbers to the digits that write them. Every number is read back from its shortest
form, and every run of digits becomes the shortest form of its value when its leading zeros are
dropped, unless the value is zero.
-/

import CodeNavigator.Text.Decimal
import Mathlib.Data.List.Induction

namespace CodeNavigator.Text

/-- A text of digits alone, with at least one. -/
def IsNumeral (text : List Char) : Prop :=
  text ≠ [] ∧ ∀ character ∈ text, character.isDigit = true

theorem isDigits_eq_true_iff {text : List Char} : isDigits text = true ↔ IsNumeral text := by
  simp [isDigits, IsNumeral]

theorem readDigits_eq_some_iff {text : List Char} {value : Nat} :
    readDigits text = some value ↔ IsNumeral text ∧ digitsValue text = value := by
  unfold readDigits
  by_cases digits : isDigits text = true
  · simp [digits, isDigits_eq_true_iff.mp digits]
  · simp [digits, mt isDigits_eq_true_iff.mpr digits]

/-! ### From numbers to digits and back -/

theorem digitsValue_eq_ofDigitChars (digits : List Char) :
    digitsValue digits = Nat.ofDigitChars 10 digits 0 := by
  simp only [digitsValue, Nat.ofDigitChars, Nat.mul_comm]

theorem digitsValue_toDigits (number : Nat) : digitsValue (Nat.toDigits 10 number) = number := by
  rw [digitsValue_eq_ofDigitChars, Nat.ofDigitChars_ten_toDigits]

theorem isNumeral_toDigits (number : Nat) : IsNumeral (Nat.toDigits 10 number) :=
  ⟨Nat.toDigits_ne_nil, fun _ member =>
    Nat.isDigit_of_mem_toDigits (by decide) (Nat.le_refl 10) member⟩

/-! ### Leading zeros -/

theorem digitsValue_concat (digits : List Char) (last : Char) :
    digitsValue (digits ++ [last]) = 10 * digitsValue digits + (last.toNat - '0'.toNat) := by
  simp [digitsValue, Nat.mul_comm]

theorem exists_digitChar {digit : Char} (isDigit : digit.isDigit = true) :
    ∃ value < 10, digit = Nat.digitChar value ∧ digit.toNat - '0'.toNat = value := by
  have range : 48 ≤ digit.toNat ∧ digit.toNat ≤ 57 := by
    simpa [Char.isDigit, UInt32.le_iff_toNat_le] using isDigit
  have small : digit.toNat - 48 < 10 := by omega
  refine ⟨digit.toNat - 48, small, ?_, rfl⟩
  refine Char.toNat_inj.mp ?_
  rw [Nat.toNat_digitChar_of_lt_ten small]
  omega

/-- A numeral that does not begin with a zero is the shortest form of its value. -/
theorem toDigits_digitsValue {digits : List Char} (numeral : IsNumeral digits)
    (leads : digits.head? ≠ some '0') : Nat.toDigits 10 (digitsValue digits) = digits := by
  induction digits using List.reverseRecOn with
  | nil => exact absurd rfl numeral.1
  | append_singleton front last inductionHypothesis =>
    obtain ⟨value, small, same, weighs⟩ := exists_digitChar (numeral.2 last (by simp))
    rw [digitsValue_concat, weighs]
    cases front with
    | nil =>
      have none : 10 * digitsValue [] + value = value := Nat.zero_add value
      rw [none, same, Nat.toDigits_of_lt_base small, List.nil_append]
    | cons first middle =>
      have leadsFront : (first :: middle).head? ≠ some '0' := leads
      have shortest := inductionHypothesis
        ⟨List.cons_ne_nil _ _, fun digit member => numeral.2 digit (List.mem_append_left _ member)⟩
        leadsFront
      have positive : 0 < digitsValue (first :: middle) := by
        refine Nat.pos_of_ne_zero fun zero => leadsFront ?_
        rw [← shortest, zero]
        rfl
      rw [← Nat.toDigits_append_toDigits (by decide) positive small, shortest,
        Nat.toDigits_of_lt_base small, same]

theorem digitsValue_dropWhile_zero (digits : List Char) :
    digitsValue (digits.dropWhile (· = '0')) = digitsValue digits := by
  induction digits with
  | nil => rfl
  | cons digit rest inductionHypothesis =>
    by_cases zero : digit = '0'
    · rw [List.dropWhile_cons_of_pos (by simpa using zero), inductionHypothesis, zero]
      rfl
    · rw [List.dropWhile_cons_of_neg (by simpa using zero)]

/-- Without its leading zeros a numeral is the shortest form of its value. -/
theorem dropWhile_zero_eq_toDigits {digits : List Char} (numeral : IsNumeral digits)
    (positive : 0 < digitsValue digits) :
    digits.dropWhile (· = '0') = Nat.toDigits 10 (digitsValue digits) := by
  rw [← digitsValue_dropWhile_zero] at positive ⊢
  refine (toDigits_digitsValue ⟨fun none => ?_, fun digit member => ?_⟩ fun leads => ?_).symm
  · rw [none] at positive
    exact absurd positive (Nat.lt_irrefl 0)
  · exact numeral.2 digit ((List.dropWhile_suffix _).subset member)
  · have stops := List.head?_dropWhile_not (· = '0') digits
    simp [leads] at stops

/-- The shortest form of a positive number has no leading zero. -/
theorem head?_toDigits_ne_zero {number : Nat} (positive : 0 < number) :
    (Nat.toDigits 10 number).head? ≠ some '0' := by
  have value := digitsValue_toDigits number
  have same := dropWhile_zero_eq_toDigits (isNumeral_toDigits number) (value.symm ▸ positive)
  rw [value] at same
  intro leads
  have stops := List.head?_dropWhile_not (· = '0') (Nat.toDigits 10 number)
  rw [same, leads] at stops
  simp at stops

end CodeNavigator.Text
