/-
This file proves that a JSON number is read back from its written form. The readers of digits take
a run of digits as far as it goes and weigh it like any numeral, so nothing is lost as long as the
value stays within 64 bits, or for an exponent within its own limit. What follows the number must
not look like more of it.
-/

import CodeNavigator.Json.NumberToken
import CodeNavigator.Json.Printer
import CodeNavigator.Proofs.Text.Decimal
import CodeNavigator.Proofs.Text.Split
import CodeNavigator.Proofs.Text.Utf8
import Mathlib.Algebra.Group.Int.Defs
import Mathlib.Algebra.Group.Nat.Defs

namespace CodeNavigator.Json

open Text (IsNumeral digitsValue)
open Text.Utf8 (bytes)

/-! ### Numerals as bytes -/

/-- The value of some digits after a number that is already read. -/
def weigh (number : Nat) (digits : List UInt8) : Nat :=
  digits.foldl (fun value digit => value * 10 + digitValue digit) number

theorem le_weigh (number : Nat) (digits : List UInt8) : number ≤ weigh number digits := by
  induction digits generalizing number with
  | nil => exact Nat.le_refl number
  | cons digit rest inductionHypothesis =>
    exact Nat.le_trans (by omega) (inductionHypothesis (number * 10 + digitValue digit))

theorem digitChar_byte : ∀ value < 10,
    String.utf8EncodeChar (Nat.digitChar value) = [(Nat.digitChar value).toUInt8] ∧
      isDigit (Nat.digitChar value).toUInt8 = true ∧
      digitValue (Nat.digitChar value).toUInt8 = value := by
  decide

theorem isDigit_of_mem_bytes {digits : List Char} (all : ∀ digit ∈ digits, digit.isDigit = true)
    {byte : UInt8} (member : byte ∈ bytes digits) : isDigit byte = true := by
  obtain ⟨digit, inside, member⟩ := List.mem_flatMap.mp member
  obtain ⟨value, small, rfl, _⟩ := Text.exists_digitChar (all digit inside)
  obtain ⟨single, isDigit, _⟩ := digitChar_byte value small
  rw [single, List.mem_singleton] at member
  rw [member, isDigit]

/-- A numeral weighs as much in bytes as in characters. -/
theorem weigh_bytes {digits : List Char} (all : ∀ digit ∈ digits, digit.isDigit = true)
    (number : Nat) :
    weigh number (bytes digits) =
      digits.foldl (fun value digit => value * 10 + (digit.toNat - '0'.toNat)) number := by
  induction digits generalizing number with
  | nil => rfl
  | cons first rest inductionHypothesis =>
    obtain ⟨value, small, rfl, weight⟩ := Text.exists_digitChar (all first List.mem_cons_self)
    obtain ⟨single, _, same⟩ := digitChar_byte value small
    have later := inductionHypothesis
      (fun digit member => all digit (List.mem_cons_of_mem _ member)) (number * 10 + value)
    rw [Text.Utf8.bytes_cons, single, List.foldl_cons, weight, ← later]
    show weigh (number * 10 + digitValue (Nat.digitChar value).toUInt8) (bytes rest) = _
    rw [same]

theorem weigh_bytes_toDigits (number : Nat) :
    weigh 0 (bytes (Nat.toDigits 10 number)) = number := by
  rw [weigh_bytes (Text.isNumeral_toDigits number).2]
  exact Text.digitsValue_toDigits number

/-! ### Runs of digits -/

/-- The bytes do not begin with a digit. -/
def EndsDigits (rest : List UInt8) : Prop :=
  ∀ byte ∈ rest.head?, isDigit byte = false

theorem scaleWhole_eq {number : Nat} {digits : List UInt8} (fits : weigh number digits < 2 ^ 64) :
    scaleWhole number digits = ⟨weigh number digits, 0⟩ := by
  induction digits generalizing number with
  | nil => rfl
  | cons digit rest inductionHypothesis =>
    have below : number * 10 + digitValue digit < Nat.pow 2 64 :=
      Nat.lt_of_le_of_lt (le_weigh _ rest) fits
    have grows : outgrows number digit = false := decide_eq_false (Nat.not_le_of_lt below)
    rw [scaleWhole, grows, if_neg Bool.false_ne_true]
    exact inductionHypothesis fits

theorem readExponentDigits_eq {number : Nat} {digits rest : List UInt8}
    (all : ∀ digit ∈ digits, isDigit digit = true) (ends : EndsDigits rest)
    (fits : weigh number digits ≤ largestExponent) :
    readExponentDigits number (digits ++ rest) = (some (weigh number digits), rest) := by
  induction digits generalizing number with
  | nil =>
    cases rest with
    | nil => rfl
    | cons byte others =>
      rw [List.nil_append, readExponentDigits, ends byte rfl, if_neg Bool.false_ne_true]
      rfl
  | cons digit others inductionHypothesis =>
    have below : ¬ largestExponent < number * 10 + digitValue digit :=
      Nat.not_lt_of_le (Nat.le_trans (le_weigh _ others) fits)
    rw [List.cons_append, readExponentDigits, if_pos (all digit List.mem_cons_self), if_neg below]
    exact inductionHypothesis (fun other member => all other (List.mem_cons_of_mem _ member)) fits

/-! ### Whole digits -/

/-- The bytes of a number begin with a digit, and with a zero only if the number is zero. -/
theorem exists_bytes_toDigits (number : Nat) :
    ∃ first rest, bytes (Nat.toDigits 10 number) = first :: rest ∧ isDigit first = true ∧
      (∀ byte ∈ rest, isDigit byte = true) ∧ (first = ascii '0' → rest = []) := by
  obtain ⟨nonempty, all⟩ := Text.isNumeral_toDigits number
  obtain ⟨digit, others, whole⟩ := List.exists_cons_of_ne_nil nonempty
  rw [whole] at all
  obtain ⟨value, small, rfl, _⟩ := Text.exists_digitChar (all digit List.mem_cons_self)
  obtain ⟨single, isDigitFirst, weight⟩ := digitChar_byte value small
  have rest (byte : UInt8) (member : byte ∈ bytes others) : isDigit byte = true :=
    isDigit_of_mem_bytes (fun digit inside => all digit (List.mem_cons_of_mem _ inside)) member
  refine ⟨_, bytes others, ?_, isDigitFirst, rest, fun zero => ?_⟩
  · rw [whole, Text.Utf8.bytes_cons, single]
    rfl
  · rw [zero] at weight
    obtain rfl : number = 0 := by
      by_contra positive
      have leads := Text.head?_toDigits_ne_zero (Nat.pos_of_ne_zero positive)
      rw [whole, ← weight] at leads
      exact leads rfl
    rw [Nat.toDigits_zero] at whole
    rw [← (List.cons.inj whole).2]
    rfl

/-- The whole digits of a number are taken up to their end. -/
theorem readUnsignedNumber_toDigits (isNegative : Bool) (number : Nat) {rest : List UInt8}
    (ends : EndsDigits rest) :
    readUnsignedNumber isNegative (bytes (Nat.toDigits 10 number) ++ rest) =
      readAfterWhole isNegative (bytes (Nat.toDigits 10 number)) rest := by
  obtain ⟨first, others, whole, isDigitFirst, isDigitOthers, zero⟩ := exists_bytes_toDigits number
  rw [whole, List.cons_append]
  unfold readUnsignedNumber
  simp only
  by_cases leads : first = ascii '0'
  · rw [if_pos leads, zero leads, List.nil_append]
    cases rest with
    | nil => rfl
    | cons second after =>
      simp only [ends second rfl, Bool.false_eq_true, if_false]
  · have all (byte : UInt8) (member : byte ∈ first :: others) : isDigit byte = true := by
      rcases List.mem_cons.mp member with rfl | member
      · exact isDigitFirst
      · exact isDigitOthers byte member
    obtain ⟨taken, left⟩ := Text.takeWhile_append_of_stops all ends
    rw [List.cons_append] at taken left
    rw [if_neg leads, if_pos isDigitFirst, taken, left]

/-! ### Numbers -/

/-- The bytes do not begin like more of a number. -/
def EndsNumber (rest : List UInt8) : Prop :=
  ∀ byte ∈ rest.head?, isDigit byte = false ∧ byte ≠ ascii '.' ∧ byte ≠ ascii 'e' ∧ byte ≠ ascii 'E'

theorem EndsNumber.endsDigits {rest : List UInt8} (ends : EndsNumber rest) : EndsDigits rest :=
  fun byte member => (ends byte member).1

/-- A number that a reader of numbers can keep: an integer of 64 bits, or a significand and an
exponent within their limits that do not go beyond the double-precision range. -/
def Number.IsReadable : Number → Prop
  | .integer value => -2 ^ 63 ≤ value ∧ value < 2 ^ 64
  | .decimal _ significand exponent =>
    significand < 2 ^ 64 ∧ exponent.natAbs ≤ largestExponent ∧
      (⟨significand, exponent⟩ : Scaled).isTooLarge = false

theorem scaleWhole_toDigits {number : Nat} (fits : number < 2 ^ 64) :
    scaleWhole 0 (bytes (Nat.toDigits 10 number)) = ⟨number, 0⟩ := by
  rw [← weigh_bytes_toDigits number] at fits
  rw [scaleWhole_eq fits, weigh_bytes_toDigits]

theorem readAfterWhole_of_ends (isNegative : Bool) {number : Nat} (fits : number < 2 ^ 64)
    {rest : List UInt8} (ends : EndsNumber rest) :
    readAfterWhole isNegative (bytes (Nat.toDigits 10 number)) rest =
      finishWhole isNegative ⟨number, 0⟩ rest := by
  unfold readAfterWhole
  rw [scaleWhole_toDigits fits]
  cases rest with
  | nil => rfl
  | cons byte others =>
    obtain ⟨_, notPoint, notSmall, notLarge⟩ := ends byte rfl
    simp only [notPoint, notSmall, notLarge, if_false, decide_false, Bool.or_self,
      Bool.false_eq_true]

/-- A sign is no digit. -/
theorem readNumber_of_isDigit {first : UInt8} (digit : isDigit first = true) (rest : List UInt8) :
    readNumber (first :: rest) = readUnsignedNumber false (first :: rest) := by
  have unsigned : first ≠ ascii '-' := by
    rintro rfl
    exact absurd digit (by decide)
  unfold readNumber
  simp only [if_neg unsigned]

theorem readNumber_toDigits (number : Nat) (rest : List UInt8) :
    readNumber (bytes (Nat.toDigits 10 number) ++ rest) =
      readUnsignedNumber false (bytes (Nat.toDigits 10 number) ++ rest) := by
  obtain ⟨first, others, whole, digit, _⟩ := exists_bytes_toDigits number
  rw [whole]
  exact readNumber_of_isDigit digit _

theorem toList_toString_natCast (number : Nat) :
    (toString (number : Int)).toList = Nat.toDigits 10 number :=
  Nat.toList_repr

theorem toList_toString_negSucc (number : Nat) :
    (toString (Int.negSucc number)).toList = '-' :: Nat.toDigits 10 (number + 1) := by
  show ("-" ++ (number + 1).repr).toList = _
  rw [String.toList_append, Nat.toList_repr]
  rfl

theorem finishWhole_negSucc {number : Nat} (inRange : number < 2 ^ 63) (rest : List UInt8) :
    finishWhole true ⟨number + 1, 0⟩ rest = .ok (.integer (.negSucc number), rest) := by
  have notBelow : ¬ Nat.pow 2 63 < number + 1 := Nat.not_lt_of_le inRange
  unfold finishWhole
  simp only [ne_eq, not_true_eq_false, Bool.not_true, Bool.false_eq_true, if_false,
    Nat.add_one_ne_zero, decide_false, Bool.false_or, notBelow]
  rfl

theorem readNumber_integer {value : Int} (readable : (Number.integer value).IsReadable)
    {rest : List UInt8} (ends : EndsNumber rest) :
    readNumber (bytes (numberText (.integer value)) ++ rest) = .ok (.integer value, rest) := by
  obtain ⟨low, high⟩ := readable
  cases value with
  | ofNat number =>
    have high : (number : Int) < 2 ^ 64 := high
    have fits : number < 2 ^ 64 := by omega
    rw [numberText, Int.ofNat_eq_natCast, toList_toString_natCast, readNumber_toDigits,
      readUnsignedNumber_toDigits _ _ ends.endsDigits, readAfterWhole_of_ends _ fits ends]
    rfl
  | negSucc number =>
    have inRange : number < 2 ^ 63 := by omega
    have fits : number + 1 < 2 ^ 64 := by omega
    rw [numberText, toList_toString_negSucc, Text.Utf8.bytes_cons]
    show readUnsignedNumber true (bytes (Nat.toDigits 10 (number + 1)) ++ rest) = _
    rw [readUnsignedNumber_toDigits _ _ ends.endsDigits, readAfterWhole_of_ends _ fits ends,
      finishWhole_negSucc inRange]

/-! ### Exponents -/

theorem ne_sign_of_isDigit {byte : UInt8} (digit : isDigit byte = true) :
    byte ≠ ascii '+' ∧ byte ≠ ascii '-' := by
  constructor
  all_goals
    rintro rfl
    exact absurd digit (by decide)

/-- The digits of an exponent are read up to their end. -/
theorem readExponentDigits_toDigits {number : Nat} {first : UInt8} {others rest : List UInt8}
    (whole : bytes (Nat.toDigits 10 number) = first :: others)
    (digits : ∀ byte ∈ others, isDigit byte = true) (fits : number ≤ largestExponent)
    (ends : EndsDigits rest) :
    readExponentDigits (digitValue first) (others ++ rest) = (some number, rest) := by
  have weight : weigh (digitValue first) others = number := by
    have total := weigh_bytes_toDigits number
    rw [whole] at total
    rw [← total]
    show _ = weigh (0 * 10 + digitValue first) others
    rw [Nat.zero_mul, Nat.zero_add]
  rw [readExponentDigits_eq digits ends (weight.symm ▸ fits), weight]

/-- The value of an exponent is that of its digits, raising or lowering as its sign says. -/
theorem readExponent_toString (isNegative : Bool) (significand : Nat) {exponent : Int}
    (fits : exponent.natAbs ≤ largestExponent) {rest : List UInt8} (ends : EndsDigits rest) :
    readExponent isNegative ⟨significand, 0⟩ (bytes (toString exponent).toList ++ rest) =
      finishDecimal isNegative ⟨significand, exponent⟩ rest := by
  cases exponent with
  | ofNat number =>
    obtain ⟨first, others, whole, digit, digits, _⟩ := exists_bytes_toDigits number
    obtain ⟨notPlus, notMinus⟩ := ne_sign_of_isDigit digit
    rw [Int.ofNat_eq_natCast, toList_toString_natCast, whole, List.cons_append]
    unfold readExponent
    simp only [notPlus, notMinus, if_false, digit, Bool.not_true, Bool.false_eq_true,
      readExponentDigits_toDigits whole digits fits ends, if_true, Int.zero_add]
  | negSucc number =>
    obtain ⟨first, others, whole, digit, digits, _⟩ := exists_bytes_toDigits (number + 1)
    rw [toList_toString_negSucc, Text.Utf8.bytes_cons, whole]
    show readExponent isNegative ⟨significand, 0⟩ (ascii '-' :: first :: (others ++ rest)) = _
    have notPlus : ascii '-' ≠ ascii '+' := by decide
    unfold readExponent
    simp only [notPlus, if_false, if_true, digit, Bool.not_true, Bool.false_eq_true,
      readExponentDigits_toDigits whole digits fits ends, Int.zero_sub]
    rfl

theorem readAfterWhole_exponent (isNegative : Bool) {significand : Nat}
    (fits : significand < 2 ^ 64) (rest : List UInt8) :
    readAfterWhole isNegative (bytes (Nat.toDigits 10 significand)) (ascii 'e' :: rest) =
      readExponent isNegative ⟨significand, 0⟩ rest := by
  unfold readAfterWhole
  rw [scaleWhole_toDigits fits]
  rfl

theorem readNumber_decimal {isNegative : Bool} {significand : Nat} {exponent : Int}
    (readable : (Number.decimal isNegative significand exponent).IsReadable)
    {rest : List UInt8} (ends : EndsNumber rest) :
    readNumber (bytes (numberText (.decimal isNegative significand exponent)) ++ rest) =
      .ok (.decimal isNegative significand exponent, rest) := by
  obtain ⟨fits, exponentFits, inRange⟩ := readable
  have ended : EndsDigits (ascii 'e' :: (bytes (toString exponent).toList ++ rest)) := by
    rintro byte ⟨⟩
    rfl
  have unsigned : readUnsignedNumber isNegative (bytes (Nat.toDigits 10 significand) ++
      ascii 'e' :: (bytes (toString exponent).toList ++ rest)) =
        .ok (.decimal isNegative significand exponent, rest) := by
    rw [readUnsignedNumber_toDigits _ _ ended, readAfterWhole_exponent _ fits,
      readExponent_toString _ _ exponentFits ends.endsDigits, finishDecimal, inRange,
      if_neg Bool.false_ne_true]
  cases isNegative with
  | false =>
    have text : bytes (numberText (.decimal false significand exponent)) ++ rest =
        bytes (Nat.toDigits 10 significand) ++
          ascii 'e' :: (bytes (toString exponent).toList ++ rest) := by
      rw [numberText, Nat.toString_eq_repr, Nat.toList_repr, Text.Utf8.bytes_append,
        List.append_assoc]
      rfl
    rw [text, readNumber_toDigits, unsigned]
  | true =>
    have text : bytes (numberText (.decimal true significand exponent)) ++ rest =
        ascii '-' :: (bytes (Nat.toDigits 10 significand) ++
          ascii 'e' :: (bytes (toString exponent).toList ++ rest)) := by
      rw [numberText, Nat.toString_eq_repr, Nat.toList_repr, Text.Utf8.bytes_append,
        List.append_assoc]
      rfl
    rw [text]
    exact unsigned

/-- A number is read back from its written form. -/
theorem readNumber_numberText {number : Number} (readable : number.IsReadable)
    {rest : List UInt8} (ends : EndsNumber rest) :
    readNumber (bytes (numberText number) ++ rest) = .ok (number, rest) := by
  cases number with
  | integer value => exact readNumber_integer readable ends
  | decimal isNegative significand exponent => exact readNumber_decimal readable ends

end CodeNavigator.Json
