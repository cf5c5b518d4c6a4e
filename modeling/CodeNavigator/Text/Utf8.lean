/-
This file relates texts to bytes. `encode` and `decode?` are the two directions of UTF-8, and
`repair` reads any bytes at all: each longest run of bytes that begins a character but does not
finish one, and each byte that can begin none, becomes one replacement character.
-/

namespace CodeNavigator.Text.Utf8

/-- The bytes of a text. -/
def encode (text : String) : List UInt8 :=
  text.toList.flatMap String.utf8EncodeChar

/-- The text whose bytes these are, if there is one. -/
def decode? (bytes : List UInt8) : Option String :=
  String.fromUTF8? bytes.toByteArray

/-! ### Reading damaged text -/

/-- What a first byte announces: how many bytes follow it, its own share of the code point, and
the range in which the second byte must lie. -/
structure Lead where
  following : Nat
  share : Nat
  secondLow : Nat
  secondHigh : Nat

/-- The announcement of a byte, unless no character begins with it. -/
def lead? (byte : UInt8) : Option Lead :=
  let value := byte.toNat
  if value < 0x80 then some ⟨0, value, 0x80, 0xBF⟩
  else if value < 0xC2 then none
  else if value < 0xE0 then some ⟨1, value - 0xC0, 0x80, 0xBF⟩
  else if value < 0xF0 then
    some ⟨2, value - 0xE0, if value = 0xE0 then 0xA0 else 0x80, if value = 0xED then 0x9F else 0xBF⟩
  else if value < 0xF5 then
    some ⟨3, value - 0xF0, if value = 0xF0 then 0x90 else 0x80, if value = 0xF4 then 0x8F else 0xBF⟩
  else none

/-- The replacement character. -/
def replacement : Char := '\uFFFD'

/-- A character under way: the bytes still to come, the code point so far, and the range of the
next byte. -/
structure Unfinished where
  missing : Nat
  code : Nat
  low : Nat
  high : Nat

/-- What a byte that stands at the start of a character gives: a finished part of the text, and
perhaps a character under way. -/
def begin (byte : UInt8) : List Char × Option Unfinished :=
  match lead? byte with
  | none => ([replacement], none)
  | some lead =>
    if lead.following = 0 then ([Char.ofNat lead.share], none)
    else ([], some ⟨lead.following, lead.share, lead.secondLow, lead.secondHigh⟩)

/-- Read bytes in the middle of a character or between two. -/
def repairFrom : Option Unfinished → List UInt8 → List Char
  | none, [] => []
  | some _, [] => [replacement]
  | none, byte :: rest =>
    let (finished, unfinished) := begin byte
    finished ++ repairFrom unfinished rest
  | some unfinished, byte :: rest =>
    if unfinished.low ≤ byte.toNat && byte.toNat ≤ unfinished.high then
      let code := unfinished.code * 64 + (byte.toNat - 0x80)
      if unfinished.missing = 1 then Char.ofNat code :: repairFrom none rest
      else repairFrom (some ⟨unfinished.missing - 1, code, 0x80, 0xBF⟩) rest
    else
      let (finished, unfinished) := begin byte
      replacement :: finished ++ repairFrom unfinished rest

/-- The text of any bytes, with replacement characters where they are damaged. -/
def repair (bytes : List UInt8) : String :=
  String.ofList (repairFrom none bytes)

end CodeNavigator.Text.Utf8
