/-
This file reads JSON strings. A small machine reads one byte at a time, so the place of every fault
is the byte at which the machine stops. Beside the reader stands one that only passes over a
string: it checks escapes and their digits, but it neither pairs surrogates nor decodes the bytes.
-/

import CodeNavigator.Json.Reading
import CodeNavigator.Text.Utf8

namespace CodeNavigator.Json

/-- The value of a hexadecimal digit. -/
def hexValue? (byte : UInt8) : Option Nat :=
  let value := byte.toNat
  if 0x30 ≤ value && value ≤ 0x39 then some (value - 0x30)
  else if 0x61 ≤ value && value ≤ 0x66 then some (value - 0x61 + 10)
  else if 0x41 ≤ value && value ≤ 0x46 then some (value - 0x41 + 10)
  else none

/-- The number that four hexadecimal digits write. -/
def hexCode? (digits : List UInt8) : Option Nat :=
  digits.foldl
    (fun code digit => code.bind fun high => (hexValue? digit).map fun low => high * 16 + low)
    (some 0)

/-- The byte that a one-letter escape stands for. -/
def escape? (byte : UInt8) : Option UInt8 :=
  if byte = ascii '"' || byte = ascii '\\' || byte = ascii '/' then some byte
  else if byte = ascii 'b' then some 8
  else if byte = ascii 'f' then some 12
  else if byte = ascii 'n' then some 10
  else if byte = ascii 'r' then some 13
  else if byte = ascii 't' then some 9
  else none

def isHighSurrogate (code : Nat) : Bool :=
  0xD800 ≤ code && code ≤ 0xDBFF

def isLowSurrogate (code : Nat) : Bool :=
  0xDC00 ≤ code && code ≤ 0xDFFF

/-- The code point that a pair of surrogates stands for. -/
def pairedCode (high low : Nat) : Nat :=
  0x10000 + (high - 0xD800) * 0x400 + (low - 0xDC00)

/-- Where in a string the machine stands. -/
inductive StringState
  | plain
  | escape
  | digits (high : Option Nat) (seen : List UInt8)
  | secondBackslash (high : Nat)
  | secondLetter (high : Nat)

/-- Put bytes in front of a string that was read. -/
def prepend (bytes : List UInt8) : Reading (List UInt8) → Reading (List UInt8)
  | .ok (content, rest) => .ok (bytes ++ content, rest)
  | .error fault => .error fault

/-- What four hexadecimal digits lead to: the bytes they finish and the next state. -/
def afterDigits (high : Option Nat) (digits : List UInt8) :
    Except Cause (List UInt8 × StringState) :=
  match hexCode? digits, high with
  | none, _ => .error .invalidEscape
  | some code, none =>
    if isLowSurrogate code then .error .loneSurrogate
    else if isHighSurrogate code then .ok ([], .secondBackslash code)
    else .ok (String.utf8EncodeChar (Char.ofNat code), .plain)
  | some code, some high =>
    if isLowSurrogate code then
      .ok (String.utf8EncodeChar (Char.ofNat (pairedCode high code)), .plain)
    else .error .loneSurrogate

/-- Read the bytes that a string stands for, up to its closing quote. -/
def readContent : StringState → List UInt8 → Reading (List UInt8)
  | _, [] => .error ⟨.endInString, []⟩
  | .plain, byte :: rest =>
    if byte = ascii '"' then .ok ([], rest)
    else if byte = ascii '\\' then readContent .escape rest
    else if byte < 0x20 then .error ⟨.controlCharacter, rest⟩
    else prepend [byte] (readContent .plain rest)
  | .escape, byte :: rest =>
    if byte = ascii 'u' then readContent (.digits none []) rest
    else
      match escape? byte with
      | some meant => prepend [meant] (readContent .plain rest)
      | none => .error ⟨.invalidEscape, rest⟩
  | .digits high seen, byte :: rest =>
    if seen.length < 3 then readContent (.digits high (seen ++ [byte])) rest
    else
      match afterDigits high (seen ++ [byte]) with
      | .ok (finished, state) => prepend finished (readContent state rest)
      | .error cause => .error ⟨cause, rest⟩
  | .secondBackslash high, byte :: rest =>
    if byte = ascii '\\' then readContent (.secondLetter high) rest
    else .error ⟨.unfinishedSurrogatePair, rest⟩
  | .secondLetter high, byte :: rest =>
    if byte = ascii 'u' then readContent (.digits (some high) []) rest
    else .error ⟨.unfinishedSurrogatePair, rest⟩

/-- Read a string whose opening quote is already read. -/
def readString (bytes : List UInt8) : Reading String :=
  match readContent .plain bytes with
  | .error fault => .error fault
  | .ok (content, rest) =>
    match Text.Utf8.decode? content with
    | some text => .ok (text, rest)
    | none => .error ⟨.invalidCodePoint, rest⟩

/-! ### Passing over a string -/

/-- Pass over a string up to its closing quote. -/
def passContent : StringState → List UInt8 → Except Fault (List UInt8)
  | _, [] => .error ⟨.endInString, []⟩
  | .escape, byte :: rest =>
    if byte = ascii 'u' then passContent (.digits none []) rest
    else if (escape? byte).isSome then passContent .plain rest
    else .error ⟨.invalidEscape, rest⟩
  | .digits high seen, byte :: rest =>
    if seen.length < 3 then passContent (.digits high (seen ++ [byte])) rest
    else if (hexCode? (seen ++ [byte])).isSome then passContent .plain rest
    else .error ⟨.invalidEscape, rest⟩
  | _, byte :: rest =>
    if byte = ascii '"' then .ok rest
    else if byte = ascii '\\' then passContent .escape rest
    else if byte < 0x20 then .error ⟨.controlCharacter, rest⟩
    else passContent .plain rest

/-- Pass over a string whose opening quote is already read. -/
def passString (bytes : List UInt8) : Reading String :=
  (passContent .plain bytes).map fun rest => ("", rest)

end CodeNavigator.Json
