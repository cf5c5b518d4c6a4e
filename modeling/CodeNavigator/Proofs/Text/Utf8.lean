/-
This file proves that a text survives its encoding as bytes, and tells the bytes of the ASCII
characters from all others: an ASCII character is one byte, its own number, and every byte of any
other character lies above the ASCII range. The encoding also keeps the order: texts are ordered by
their characters as they are by their bytes.
-/

import CodeNavigator.Text.Utf8

namespace CodeNavigator.Text.Utf8

/-- The bytes of some characters. -/
def bytes (characters : List Char) : List UInt8 :=
  characters.flatMap String.utf8EncodeChar

theorem encode_ofList (characters : List Char) :
    encode (String.ofList characters) = bytes characters := by
  rw [encode, String.toList_ofList, bytes]

theorem bytes_append (first second : List Char) :
    bytes (first ++ second) = bytes first ++ bytes second :=
  List.flatMap_append

theorem bytes_cons (first : Char) (rest : List Char) :
    bytes (first :: rest) = String.utf8EncodeChar first ++ bytes rest :=
  List.flatMap_cons

/-- A text is read back from its bytes. -/
theorem decode?_encode (text : String) : decode? (encode text) = some text := by
  have same : (encode text).toByteArray = text.toByteArray := by
    rw [encode, ← String.utf8Encode_toList]
    rfl
  rw [decode?, same, String.fromUTF8?, dif_pos text.isValidUTF8]
  rfl

theorem encode_inj {left right : String} : encode left = encode right ↔ left = right := by
  refine ⟨fun same => ?_, congrArg encode⟩
  have read := decode?_encode left
  rw [same, decode?_encode] at read
  exact (Option.some.inj read).symm

theorem toNat_toUInt8 {character : Char} (ascii : character.toNat < 128) :
    character.toUInt8.toNat = character.toNat := by
  have small : character.toNat < 256 := Nat.lt_trans ascii (by decide)
  rw [Char.toUInt8, UInt32.toNat_toUInt8]
  exact Nat.mod_eq_of_lt small

theorem utf8EncodeChar_of_lt {character : Char} (ascii : character.toNat < 128) :
    String.utf8EncodeChar character = [character.toUInt8] := by
  have small : character.val.toNat ≤ 127 := Nat.le_of_lt_succ ascii
  unfold String.utf8EncodeChar
  rw [if_pos small]
  rfl

theorem le_toNat_ofNat {number : Nat} (low : 128 ≤ number) (high : number < 256) :
    128 ≤ (UInt8.ofNat number).toNat := by
  rw [UInt8.toNat_ofNat_of_lt' high]
  exact low

/-- No byte of a character beyond ASCII is an ASCII byte. -/
theorem le_toNat_of_mem_utf8EncodeChar {character : Char} (beyond : 128 ≤ character.toNat)
    {byte : UInt8} (member : byte ∈ String.utf8EncodeChar character) : 128 ≤ byte.toNat := by
  have large : ¬ character.val.toNat ≤ 127 := Nat.not_le_of_lt beyond
  unfold String.utf8EncodeChar at member
  simp only [if_neg large] at member
  split at member
  all_goals try split at member
  all_goals
    simp only [List.mem_cons, List.not_mem_nil, or_false] at member
    rcases member with rfl | rfl | rfl | rfl <;> exact le_toNat_ofNat (by omega) (by omega)

/-! ### The order of bytes -/

theorem ofNat_cons_lt_iff {left right : Nat} (small : left < 256) (otherSmall : right < 256)
    (rest others : List UInt8) :
    UInt8.ofNat left :: rest < UInt8.ofNat right :: others ↔
      left < right ∨ left = right ∧ rest < others := by
  rw [List.cons_lt_cons_iff, UInt8.lt_iff_toNat_lt, ← UInt8.toNat_inj,
    UInt8.toNat_ofNat_of_lt' small, UInt8.toNat_ofNat_of_lt' otherSmall]

theorem div_4096 (number : Nat) : number / 4096 = number / 64 / 64 :=
  (Nat.div_div_eq_div_mul number 64 64).symm

theorem div_262144 (number : Nat) : number / 262144 = number / 64 / 64 / 64 := by
  rw [Nat.div_div_eq_div_mul, Nat.div_div_eq_div_mul]

/-- What follows two different characters does not count for the order of their bytes. -/
theorem utf8EncodeChar_append_lt {first second : Char} (less : first < second)
    (rest others : List UInt8) :
    String.utf8EncodeChar first ++ rest < String.utf8EncodeChar second ++ others := by
  have less : first.val.toNat < second.val.toNat := less
  have bound : second.val.toNat < 0x110000 := by
    rcases second.valid with low | ⟨_, high⟩
    · exact Nat.lt_trans low (by decide)
    · exact high
  unfold String.utf8EncodeChar
  generalize first.val.toNat = left at *
  generalize second.val.toNat = right at *
  -- Behind the lead byte stand digits to the base of 64, the highest first.
  simp only [div_4096, div_262144]
  repeat' split
  all_goals
    simp (disch := omega) only [List.cons_append, List.nil_append, ofNat_cons_lt_iff]
    omega

theorem bytes_lt_bytes {first second : List Char} (less : first < second) :
    bytes first < bytes second := by
  induction less with
  | @nil head tail =>
    rw [bytes_cons]
    cases encoded : String.utf8EncodeChar head with
    | nil =>
      have long := String.length_utf8EncodeChar head
      rw [encoded] at long
      exact absurd long (Nat.ne_of_lt head.utf8Size_pos)
    | cons byte more => exact List.nil_lt_cons _ _
  | rel less =>
    rw [bytes_cons, bytes_cons]
    exact utf8EncodeChar_append_lt less _ _
  | cons _ inductionHypothesis =>
    rw [bytes_cons, bytes_cons]
    exact List.append_left_lt inductionHypothesis

/-- Texts are ordered like their bytes. -/
theorem encode_lt_encode_iff {left right : String} :
    encode left < encode right ↔ left < right := by
  have strict {left right : String} (less : left < right) : encode left < encode right :=
    bytes_lt_bytes (String.lt_iff.mp less)
  refine ⟨fun less => Decidable.byContradiction fun notLess => ?_, strict⟩
  have least : right ≤ left := String.not_lt.mp notLess
  have greater : right < left := String.not_le.mp fun most => by
    rw [String.le_antisymm most least] at less
    exact List.lt_irrefl _ less
  exact List.lt_asymm less (strict greater)

end CodeNavigator.Text.Utf8
