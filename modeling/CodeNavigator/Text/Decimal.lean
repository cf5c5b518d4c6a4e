/-
This file reads unsigned decimal numbers. Only the ten ASCII digits count as digits: a sign, a
space or a digit of another script makes a text no number. Leading zeros are allowed and there is
no limit on the length, so a limit is always a test on the value.
-/

namespace CodeNavigator.Text

/-- The value that a run of digits stands for, the first digit weighing most. -/
def digitsValue (digits : List Char) : Nat :=
  digits.foldl (fun value digit => value * 10 + (digit.toNat - '0'.toNat)) 0

/-- Whether a text is a number: at least one digit and nothing else. -/
def isDigits (text : List Char) : Bool :=
  !text.isEmpty && text.all Char.isDigit

/-- The value of a text that is a number. -/
def readDigits (text : List Char) : Option Nat :=
  if isDigits text then some (digitsValue text) else none

/-- The value of a number that one plus sign may precede, if it is below a limit. -/
def readUnsigned (limit : Nat) (text : List Char) : Option Nat :=
  let digits := match text with
    | '+' :: rest => rest
    | all => all
  (readDigits digits).filter (· < limit)

/-- The value of a number that one sign may precede, if it fits in a signed word. -/
def readSigned (bits : Nat) (text : List Char) : Option Int :=
  match text with
  | '-' :: digits =>
    (readDigits digits).bind fun value => if value ≤ Nat.pow 2 (bits - 1) then some (-value) else none
  | all => (readUnsigned (Nat.pow 2 (bits - 1)) all).map Int.ofNat

end CodeNavigator.Text
