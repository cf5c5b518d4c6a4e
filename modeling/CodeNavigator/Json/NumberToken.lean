/-
This file reads JSON numbers. An integer that fits in 64 bits is read exactly. Any other number is
read as a significand below `2 ^ 64` and a power of ten, further digits being dropped, and is
refused when the double-precision number it stands for would be infinite. Beside the reader stands
one that only passes over a number and looks at its digits alone.
-/

import CodeNavigator.Json.Reading

namespace CodeNavigator.Json

def isDigit (byte : UInt8) : Bool :=
  ascii '0' ≤ byte && byte ≤ ascii '9'

def digitValue (byte : UInt8) : Nat :=
  byte.toNat - 0x30

/-! ### The size of a number -/

/-- A significand and a power of ten. The significand takes digits as long as it stays below
`2 ^ 64`. -/
structure Scaled where
  significand : Nat
  exponent : Int

/-- Whether one more digit would take a significand out of 64 bits. -/
def outgrows (significand : Nat) (digit : UInt8) : Bool :=
  Nat.pow 2 64 ≤ significand * 10 + digitValue digit

/-- Take the digits before the point. Those that no longer fit raise the exponent. -/
def scaleWhole : Nat → List UInt8 → Scaled
  | significand, [] => ⟨significand, 0⟩
  | significand, digit :: rest =>
    if outgrows significand digit then ⟨significand, rest.length + 1⟩
    else scaleWhole (significand * 10 + digitValue digit) rest

/-- Take the digits after the point as long as they fit. -/
def scaleFraction : Scaled → List UInt8 → Scaled
  | scaled, [] => scaled
  | scaled, digit :: rest =>
    if outgrows scaled.significand digit then scaled
    else
      scaleFraction ⟨scaled.significand * 10 + digitValue digit, scaled.exponent - 1⟩ rest

/-- A number rounded to 53 binary digits, halves going to the even neighbour. -/
def roundTo53Bits (number : Nat) : Nat :=
  let excess := number.log2 + 1 - 53
  let unit := Nat.pow 2 excess
  let below := number / unit
  let remainder := number % unit
  let up := unit < remainder * 2 || (remainder * 2 = unit && below % 2 = 1)
  (if up then below + 1 else below) * unit

/-- Whether a scaled number lies beyond the double-precision range. -/
def Scaled.isTooLarge (scaled : Scaled) : Bool :=
  scaled.significand ≠ 0 && 0 ≤ scaled.exponent &&
    (308 < scaled.exponent ||
      Nat.pow 2 1024 ≤ roundTo53Bits
        (roundTo53Bits scaled.significand * roundTo53Bits (Nat.pow 10 scaled.exponent.toNat)))

/-! ### Reading a number -/

/-- The largest exponent that may be written. -/
def largestExponent : Nat := Nat.pow 2 31 - 1

/-- Read the digits of an exponent. When they outgrow the largest exponent, the result is none and
the rest begins after the digit that did it. -/
def readExponentDigits : Nat → List UInt8 → Option Nat × List UInt8
  | value, [] => (some value, [])
  | value, byte :: rest =>
    if isDigit byte then
      if largestExponent < value * 10 + digitValue byte then (none, rest)
      else readExponentDigits (value * 10 + digitValue byte) rest
    else (some value, byte :: rest)

/-- Finish a number with a fraction or an exponent. -/
def finishDecimal (isNegative : Bool) (scaled : Scaled) (rest : List UInt8) : Reading Number :=
  if scaled.isTooLarge then .error ⟨.numberOutOfRange, rest⟩
  else .ok (.decimal isNegative scaled.significand scaled.exponent, rest)

/-- Read an exponent whose letter is already read. -/
def readExponent (isNegative : Bool) (scaled : Scaled) (bytes : List UInt8) : Reading Number :=
  let (isRaising, digits) := match bytes with
    | byte :: rest =>
      if byte = ascii '+' then (true, rest)
      else if byte = ascii '-' then (false, rest)
      else (true, bytes)
    | [] => (true, bytes)
  match digits with
  | [] => .error ⟨.endInValue, []⟩
  | first :: rest =>
    if !isDigit first then .error ⟨.invalidNumber, rest⟩
    else
      match readExponentDigits (digitValue first) rest with
      | (some value, after) =>
        let exponent := if isRaising then scaled.exponent + value else scaled.exponent - value
        finishDecimal isNegative ⟨scaled.significand, exponent⟩ after
      | (none, after) =>
        if scaled.significand ≠ 0 && isRaising then .error ⟨.numberOutOfRange, after⟩
        else .ok (.decimal isNegative 0 0, after.dropWhile isDigit)

/-- Read what may follow the digits of a decimal number: an exponent or nothing. -/
def readScale (isNegative : Bool) (scaled : Scaled) (bytes : List UInt8) : Reading Number :=
  match bytes with
  | byte :: rest =>
    if byte = ascii 'e' || byte = ascii 'E' then readExponent isNegative scaled rest
    else finishDecimal isNegative scaled bytes
  | [] => finishDecimal isNegative scaled bytes

/-- The number that whole digits alone write. Without a sign it is an integer if it fits in 64 bits,
with a sign if it fits in 63 bits or is the least signed word; a negative zero is no integer. -/
def finishWhole (isNegative : Bool) (scaled : Scaled) (rest : List UInt8) : Reading Number :=
  if scaled.exponent ≠ 0 then finishDecimal isNegative scaled rest
  else if !isNegative then .ok (.integer scaled.significand, rest)
  else if scaled.significand = 0 || Nat.pow 2 63 < scaled.significand then
    .ok (.decimal true scaled.significand 0, rest)
  else .ok (.integer (-scaled.significand), rest)

/-- Read what may follow the whole digits: a fraction, an exponent or nothing. -/
def readAfterWhole (isNegative : Bool) (whole bytes : List UInt8) : Reading Number :=
  let scaled := scaleWhole 0 whole
  match bytes with
  | [] => finishWhole isNegative scaled bytes
  | byte :: rest =>
    if byte = ascii '.' then
      let fraction := rest.takeWhile isDigit
      let after := rest.dropWhile isDigit
      if fraction.isEmpty then
        if after.isEmpty then .error ⟨.endInValue, []⟩ else .error (.next .invalidNumber after)
      else readScale isNegative (scaleFraction scaled fraction) after
    else if byte = ascii 'e' || byte = ascii 'E' then readExponent isNegative scaled rest
    else finishWhole isNegative scaled bytes

/-- Read a number whose sign, if any, is already read. -/
def readUnsignedNumber (isNegative : Bool) (bytes : List UInt8) : Reading Number :=
  match bytes with
  | [] => .error ⟨.endInValue, []⟩
  | first :: rest =>
    if first = ascii '0' then
      match rest with
      | second :: _ =>
        if isDigit second then .error (.next .invalidNumber rest)
        else readAfterWhole isNegative [first] rest
      | [] => readAfterWhole isNegative [first] rest
    else if isDigit first then
      readAfterWhole isNegative (bytes.takeWhile isDigit) (bytes.dropWhile isDigit)
    else .error ⟨.invalidNumber, rest⟩

/-- Read a number. -/
def readNumber (bytes : List UInt8) : Reading Number :=
  match bytes with
  | byte :: rest =>
    if byte = ascii '-' then readUnsignedNumber true rest else readUnsignedNumber false bytes
  | [] => readUnsignedNumber false bytes

/-! ### Passing over a number -/

/-- Pass over at least one digit. -/
def passDigits (bytes : List UInt8) : Except Fault (List UInt8) :=
  match bytes with
  | byte :: rest =>
    if isDigit byte then .ok (rest.dropWhile isDigit) else .error (.next .invalidNumber bytes)
  | [] => .error (.next .invalidNumber bytes)

/-- Pass over an exponent, if one follows. -/
def passExponent (bytes : List UInt8) : Except Fault (List UInt8) :=
  match bytes with
  | letter :: rest =>
    if letter = ascii 'e' || letter = ascii 'E' then
      match rest with
      | sign :: digits =>
        if sign = ascii '+' || sign = ascii '-' then passDigits digits else passDigits rest
      | [] => passDigits rest
    else .ok bytes
  | [] => .ok bytes

/-- Pass over a fraction and an exponent, if they follow. -/
def passAfterWhole (bytes : List UInt8) : Except Fault (List UInt8) :=
  match bytes with
  | point :: rest =>
    if point = ascii '.' then (passDigits rest).bind passExponent else passExponent bytes
  | [] => .ok bytes

/-- Pass over a number. Here a number that breaks off is as wrong as any other bad number. -/
def passNumber (bytes : List UInt8) : Reading Number :=
  let digits := match bytes with
    | byte :: rest => if byte = ascii '-' then rest else bytes
    | [] => bytes
  let passed := match digits with
    | zero :: second :: rest =>
      if zero = ascii '0' then
        if isDigit second then Except.error (Fault.next .invalidNumber (second :: rest))
        else passAfterWhole (second :: rest)
      else (passDigits digits).bind passAfterWhole
    | _ => (passDigits digits).bind passAfterWhole
  passed.map fun rest => (.integer 0, rest)

end CodeNavigator.Json
