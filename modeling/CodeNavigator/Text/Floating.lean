/-
This file writes floating-point numbers with a given number of digits. A finite number is a fraction,
so its digits are computed exactly, and a half is rounded to the even neighbour. There are three
ways to write a number: with a fixed number of places, with an exponent, and in whichever of the two
ways suits its size.
-/

import CodeNavigator.Text.Bytes
import CodeNavigator.Text.Decimal

namespace CodeNavigator.Floating

/-! ### Fractions -/

/-- A number that is not negative, as a fraction. -/
structure Fraction where
  numerator : Nat
  denominator : Nat

/-- The bits of a number that are its fraction. -/
def fractionBits : Nat := 52

/-- The size of a finite number as a fraction. -/
def magnitude (value : Float) : Fraction :=
  let bits := value.toBits.toNat
  let exponent := (bits / Nat.pow 2 fractionBits) % Nat.pow 2 11
  let low := bits % Nat.pow 2 fractionBits
  let mantissa := if exponent = 0 then low else low + Nat.pow 2 fractionBits
  let power := max exponent 1
  if 1075 ≤ power then ⟨mantissa * Nat.pow 2 (power - 1075), 1⟩
  else ⟨mantissa, Nat.pow 2 (1075 - power)⟩

/-- Whether a number has the sign of the negative ones. -/
def isNegative (value : Float) : Bool :=
  value.toBits.toNat / Nat.pow 2 63 = 1

/-- The whole number next to a quotient. A half goes to the even neighbour. -/
def roundedQuotient (numerator denominator : Nat) : Nat :=
  let quotient := numerator / denominator
  let double := 2 * (numerator % denominator)
  if denominator < double || (double = denominator && quotient % 2 = 1) then quotient + 1
  else quotient

/-- The power of ten that a fraction reaches, which may be negative. -/
def decimalExponent (fraction : Fraction) : Int :=
  if fraction.numerator = 0 then 0
  else if fraction.denominator ≤ fraction.numerator then
    ((Nat.toDigits 10 (fraction.numerator / fraction.denominator)).length : Int) - 1
  else
    let inverse := fraction.denominator / fraction.numerator
    let digits := (Nat.toDigits 10 inverse).length
    if inverse = Nat.pow 10 (digits - 1) && inverse * fraction.numerator = fraction.denominator then
      1 - (digits : Int)
    else -(digits : Int)

/-- A fraction times a power of ten. -/
def scaled (fraction : Fraction) (power : Int) : Fraction :=
  if 0 ≤ power then ⟨fraction.numerator * Nat.pow 10 power.toNat, fraction.denominator⟩
  else ⟨fraction.numerator, fraction.denominator * Nat.pow 10 (-power).toNat⟩

/-! ### Writing -/

/-- The digits of a number with a point before the last ones. -/
def pointed (places : Nat) (keepsPoint : Bool) (number : Nat) : ByteText :=
  let digits := ByteText.padLeft '0' (places + 1) (Nat.toDigits 10 number)
  let whole := digits.take (digits.length - places)
  let behind := digits.drop (digits.length - places)
  if behind.isEmpty then if keepsPoint then whole ++ ['.'] else whole else whole ++ '.' :: behind

/-- A fraction with so many places behind the point. -/
def fixed (places : Nat) (keepsPoint : Bool) (fraction : Fraction) : ByteText :=
  let moved := scaled fraction places
  pointed places keepsPoint (roundedQuotient moved.numerator moved.denominator)

/-- The digits of a fraction, so many behind the first one, and its exponent after rounding. -/
def significant (places : Nat) (fraction : Fraction) : Nat × Int :=
  let exponent := decimalExponent fraction
  let moved := scaled fraction (places - exponent)
  let digits := roundedQuotient moved.numerator moved.denominator
  if Nat.pow 10 (places + 1) ≤ digits then (digits / 10, exponent + 1) else (digits, exponent)

/-- An exponent with its sign and at least two digits. -/
def exponentText (letter : Char) (exponent : Int) : ByteText :=
  letter :: (if exponent < 0 then '-' else '+') ::
    ByteText.padLeft '0' 2 (ByteText.ofNat exponent.natAbs)

/-- A fraction with an exponent. -/
def scientific (places : Nat) (keepsPoint : Bool) (letter : Char) (fraction : Fraction) :
    ByteText :=
  let (digits, exponent) := significant places fraction
  pointed places keepsPoint digits ++ exponentText letter exponent

/-- A written number without zeros at the end of its places. -/
def withoutZeros (text : ByteText) : ByteText :=
  if text.contains '.' then
    ByteText.dropEnd (· = '.') (ByteText.dropEnd (· = '0') text)
  else text

/-- A fraction with so many digits in all, in the way that suits its size. -/
def general (precision : Nat) (keepsZeros : Bool) (letter : Char) (fraction : Fraction) :
    ByteText :=
  let digits := max precision 1
  let (_, exponent) := significant (digits - 1) fraction
  if exponent < -4 || (digits : Int) ≤ exponent then
    let mantissa := pointed (digits - 1) keepsZeros (significant (digits - 1) fraction).1
    (if keepsZeros then mantissa else withoutZeros mantissa) ++ exponentText letter exponent
  else
    let text := fixed ((digits : Int) - 1 - exponent).toNat keepsZeros fraction
    if keepsZeros then text else withoutZeros text

/-- The way that a letter stands for of writing a number, without its sign. -/
def write (letter : Char) (precision : Nat) (keepsZeros : Bool) (value : Float) : ByteText :=
  let isUpper := letter.isUpper
  if value.isNaN then if isUpper then "NAN".toList else "nan".toList
  else if value.isInf then if isUpper then "INF".toList else "inf".toList
  else
    let fraction := magnitude value
    match letter.toLower with
    | 'f' => fixed precision keepsZeros fraction
    | 'e' => scientific precision keepsZeros (if isUpper then 'E' else 'e') fraction
    | _ => general precision keepsZeros (if isUpper then 'E' else 'e') fraction

/-! ### Reading -/

/-- The number that an exponent at the beginning of a text writes, and what follows it. -/
def readExponent (text : ByteText) : Int × ByteText :=
  match text with
  | letter :: rest =>
    if letter = 'e' || letter = 'E' then
      let (isBelow, digits) := match rest with
        | '-' :: digits => (true, digits)
        | '+' :: digits => (false, digits)
        | digits => (false, digits)
      let taken := digits.takeWhile Char.isDigit
      if taken.isEmpty then (0, text)
      else
        let value : Int := Text.digitsValue taken
        (if isBelow then -value else value, digits.drop taken.length)
    else (0, text)
  | [] => (0, [])

/-- The words that stand for numbers that are not finite. -/
def unusualWords : List (String × Float) :=
  [("infinity", 1.0 / 0.0), ("inf", 1.0 / 0.0), ("nan", 0.0 / 0.0)]

/-- A number without a sign at the beginning of a text, and what follows it. -/
def readMagnitude (text : ByteText) : Option (Float × ByteText) :=
  let whole := text.takeWhile Char.isDigit
  let afterWhole := text.drop whole.length
  let (places, afterPlaces) := match afterWhole with
    | '.' :: rest =>
      let places := rest.takeWhile Char.isDigit
      (places, rest.drop places.length)
    | rest => ([], rest)
  if whole.isEmpty && places.isEmpty then
    unusualWords.findSome? fun (word, value) =>
      (word.toList.isPrefixOf? (text.map Char.toLower)).map fun _ =>
        (value, text.drop word.length)
  else
    let (exponent, rest) := readExponent afterPlaces
    let length : Int := whole.length + places.length
    let power := max (-400 - length) (min 400 (exponent - places.length))
    some (Float.ofScientific (Text.digitsValue (whole ++ places)) (power < 0) power.natAbs, rest)

/-- A number at the beginning of a text, and what follows it. -/
def read (text : ByteText) : Option (Float × ByteText) :=
  match text.dropWhile ByteText.isSpace with
  | '-' :: rest => (readMagnitude rest).map fun (value, after) => (-value, after)
  | '+' :: rest => readMagnitude rest
  | rest => readMagnitude rest

end CodeNavigator.Floating
