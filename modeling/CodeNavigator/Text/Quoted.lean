/-
This file writes a text between double quotes so that a reader of an error message can tell every
character apart. The quote, the backslash and the common control characters have short escapes,
any other unprintable character is written by its code point in lower-case hexadecimal, and all
else stands for itself.
-/

import CodeNavigator.Text.Unprintable

namespace CodeNavigator.Text

/-- The digits of a number in lower-case hexadecimal, without padding. -/
def hexDigits (number : Nat) : List Char :=
  Nat.toDigits 16 number

/-- One character as it stands between quotes. -/
def quotedCharacter (character : Char) : List Char :=
  match character with
  | '"' => ['\\', '"']
  | '\\' => ['\\', '\\']
  | '\n' => ['\\', 'n']
  | '\r' => ['\\', 'r']
  | '\t' => ['\\', 't']
  | '\x00' => ['\\', '0']
  | other =>
    if isUnprintable other then
      ['\\', 'u', '\x7b'] ++ hexDigits other.toNat ++ ['\x7d']
    else
      [other]

/-- A text between double quotes. -/
def quoted (text : String) : String :=
  String.ofList ('"' :: text.toList.flatMap quotedCharacter ++ ['"'])

end CodeNavigator.Text
