/-
This file proves that a text survives being written as a JSON string. The machine that reads strings
takes each character of the text from its own part of the written form: a character that is escaped
from its escape, and any other from its bytes, none of which the machine treats specially.
-/

import CodeNavigator.Json.Printer
import CodeNavigator.Json.StringToken
import CodeNavigator.Proofs.Text.Utf8

namespace CodeNavigator.Json

open Text.Utf8 (bytes)

/-! ### Bytes in front -/

theorem prepend_append (first second : List UInt8) (reading : Reading (List UInt8)) :
    prepend (first ++ second) reading = prepend first (prepend second reading) := by
  cases reading with
  | ok content => simp [prepend]
  | error fault => rfl

/-- Bytes that are neither a quote nor a backslash nor a control character stand for themselves. -/
theorem readContent_plain {content : List UInt8}
    (plain : ∀ byte ∈ content, byte ≠ ascii '"' ∧ byte ≠ ascii '\\' ∧ ¬ byte < 0x20)
    (rest : List UInt8) :
    readContent .plain (content ++ rest) = prepend content (readContent .plain rest) := by
  induction content with
  | nil =>
    rw [List.nil_append]
    cases readContent .plain rest <;> rfl
  | cons byte others inductionHypothesis =>
    obtain ⟨notQuote, notBackslash, notControl⟩ := plain byte List.mem_cons_self
    have later := inductionHypothesis fun other member =>
      plain other (List.mem_cons_of_mem _ member)
    rw [List.cons_append, readContent, if_neg notQuote, if_neg notBackslash, if_neg notControl,
      later, ← prepend_append]
    rfl

/-! ### One character -/

/-- The digits in the escape of a control character. -/
def controlDigits (number : Nat) : List UInt8 :=
  [ascii '0', ascii '0', ascii (Nat.digitChar (number / 16)), ascii (Nat.digitChar (number % 16))]

theorem bytes_control : ∀ number < 0x20,
    bytes ['\\', 'u', '0', '0', Nat.digitChar (number / 16), Nat.digitChar (number % 16)] =
      ascii '\\' :: ascii 'u' :: controlDigits number := by
  decide

theorem hexCode?_controlDigits : ∀ number < 0x20,
    hexCode? (controlDigits number) = some number := by
  decide

/-- The four digits of the escape of a control character write its number. -/
theorem afterDigits_controlDigits {character : Char} (control : character.toNat < 0x20) :
    afterDigits none (controlDigits character.toNat) =
      .ok (String.utf8EncodeChar character, .plain) := by
  have notLow : isLowSurrogate character.toNat = false := by
    simp only [isLowSurrogate, Bool.and_eq_false_iff, decide_eq_false_iff_not]
    omega
  have notHigh : isHighSurrogate character.toNat = false := by
    simp only [isHighSurrogate, Bool.and_eq_false_iff, decide_eq_false_iff_not]
    omega
  simp only [afterDigits, hexCode?_controlDigits character.toNat control, notLow, notHigh,
    Bool.false_eq_true, if_false, Char.ofNat_toNat]

theorem plain_of_mem_utf8EncodeChar {character : Char} (notQuote : character ≠ '"')
    (notBackslash : character ≠ '\\') (notControl : ¬ character.toNat < 0x20) {byte : UInt8}
    (member : byte ∈ String.utf8EncodeChar character) :
    byte ≠ ascii '"' ∧ byte ≠ ascii '\\' ∧ ¬ byte < 0x20 := by
  rw [UInt8.lt_iff_toNat_lt]
  by_cases small : character.toNat < 128
  · rw [Text.Utf8.utf8EncodeChar_of_lt small, List.mem_singleton] at member
    have number := Text.Utf8.toNat_toUInt8 small
    rw [← member] at number
    refine ⟨fun same => notQuote (Char.toNat_inj.mp ?_),
      fun same => notBackslash (Char.toNat_inj.mp ?_), number ▸ notControl⟩
    · rw [← number, same]
      rfl
    · rw [← number, same]
      rfl
  · have high := Text.Utf8.le_toNat_of_mem_utf8EncodeChar (Nat.le_of_not_lt small) member
    refine ⟨?_, ?_, Nat.not_lt_of_le (Nat.le_trans (by decide) high)⟩
    all_goals
      rintro rfl
      exact absurd high (by decide)

/-- Four digits that finish some bytes put these bytes in front of what follows. -/
theorem readContent_fourDigits {high : Option Nat} {first second third fourth : UInt8}
    {finished : List UInt8} {state : StringState}
    (after : afterDigits high [first, second, third, fourth] = .ok (finished, state))
    (rest : List UInt8) :
    readContent (.digits high []) (first :: second :: third :: fourth :: rest) =
      prepend finished (readContent state rest) := by
  simp [readContent, after]

/-- The machine takes a character from its own part of a string. -/
theorem readContent_escapedCharacter (character : Char) (rest : List UInt8) :
    readContent .plain (bytes (escapedCharacter character) ++ rest) =
      prepend (String.utf8EncodeChar character) (readContent .plain rest) := by
  unfold escapedCharacter
  split
  · rfl
  · rfl
  · rfl
  · rfl
  · rfl
  · rfl
  · rfl
  · next other notQuote notBackslash _ _ _ _ _ =>
    split
    · next control =>
      rw [bytes_control character.toNat control]
      exact readContent_fourDigits (afterDigits_controlDigits control) rest
    · next printable =>
      have single : bytes [character] = String.utf8EncodeChar character := by
        rw [Text.Utf8.bytes_cons]
        exact List.append_nil _
      rw [single]
      exact readContent_plain
        (fun _ => plain_of_mem_utf8EncodeChar notQuote notBackslash printable) rest

/-! ### A whole string -/

theorem readContent_escaped (characters : List Char) (rest : List UInt8) :
    readContent .plain (bytes (characters.flatMap escapedCharacter ++ ['"']) ++ rest) =
      .ok (bytes characters, rest) := by
  induction characters with
  | nil => rfl
  | cons character others inductionHypothesis =>
    rw [List.flatMap_cons, List.append_assoc, Text.Utf8.bytes_append, List.append_assoc,
      readContent_escapedCharacter, inductionHypothesis, Text.Utf8.bytes_cons]
    rfl

/-- A text is read back from its written form, whatever follows. -/
theorem readString_stringText (text : String) :
    ∃ others, bytes (stringText text) = ascii '"' :: others ∧
      ∀ rest, readString (others ++ rest) = .ok (text, rest) := by
  refine ⟨bytes (text.toList.flatMap escapedCharacter ++ ['"']), rfl, fun rest => ?_⟩
  have decoded : Text.Utf8.decode? (bytes text.toList) = some text :=
    Text.Utf8.decode?_encode text
  rw [readString, readContent_escaped]
  simp only [decoded]

end CodeNavigator.Json
