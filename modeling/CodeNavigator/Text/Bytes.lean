/-
This file defines texts whose characters stand for bytes. Programs exchange bytes, and a character
with a code below 256 stands for the byte of that value, so the functions on lists and characters
serve for bytes as well.
-/

import CodeNavigator.Text.Split
import CodeNavigator.Text.Utf8

namespace CodeNavigator

/-- A text whose characters stand for bytes. -/
abbrev ByteText := List Char

namespace ByteText

/-- The bytes of a text. -/
def toBytes (text : ByteText) : List UInt8 :=
  text.map fun character => UInt8.ofNat character.toNat

/-- The text of some bytes. -/
def ofBytes (bytes : List UInt8) : ByteText :=
  bytes.map fun byte => Char.ofNat byte.toNat

/-- The bytes of a string, as a text. -/
def ofString (string : String) : ByteText :=
  ofBytes (Text.Utf8.encode string)

/-- The string that a text writes. -/
def asString (text : ByteText) : String :=
  Text.Utf8.repair (toBytes text)

/-- The digits of a number. -/
def ofNat (number : Nat) : ByteText :=
  Nat.toDigits 10 number

/-- The digits of a number behind its sign. -/
def ofInt (number : Int) : ByteText :=
  if number < 0 then '-' :: ofNat number.natAbs else ofNat number.natAbs

/-! ### Lines -/

/-- Whether a character is a blank or a tab. -/
def isBlank (character : Char) : Bool :=
  character = ' ' || character = '\t'

/-- Whether a character is white space: a blank or one of the controls from tab to return. -/
def isSpace (character : Char) : Bool :=
  character = ' ' || (9 ≤ character.toNat && character.toNat ≤ 13)

/-- The lines of a text with their ends; the last one may lack its end. -/
def linesWithEnds (text : ByteText) : List ByteText :=
  (text.foldr (fun character (line, lines) =>
    if character = '\n' then (['\n'], if line.isEmpty then lines else line :: lines)
    else (character :: line, lines)) (([] : ByteText), ([] : List ByteText))) |> fun
    | (line, lines) => if line.isEmpty then lines else line :: lines

/-- A line without its end. -/
def withoutEnd (line : ByteText) : ByteText :=
  if line.getLast? = some '\n' then line.dropLast else line

/-- The lines of a text without their ends. -/
def lines (text : ByteText) : List ByteText :=
  (linesWithEnds text).map withoutEnd

/-- Lines, each with its end. -/
def unlines (lines : List ByteText) : ByteText :=
  lines.flatMap (· ++ ['\n'])

/-- A text without the characters of some kind at its end. -/
def dropEnd (isDropped : Char → Bool) (text : ByteText) : ByteText :=
  (text.reverse.dropWhile isDropped).reverse

/-- A text that is at least so wide, with fillers before it. -/
def padLeft (filler : Char) (width : Nat) (text : ByteText) : ByteText :=
  List.replicate (width - text.length) filler ++ text

/-- A text that is at least so wide, with blanks behind it. -/
def padRight (width : Nat) (text : ByteText) : ByteText :=
  text ++ List.replicate (width - text.length) ' '

/-- Whether a text comes before another or is equal to it. -/
def isUpTo (left right : ByteText) : Bool :=
  !List.lex right left

/-- The words between white space. -/
def words (text : ByteText) : List ByteText :=
  (Text.split ' ' (text.map fun character => if isSpace character then ' ' else character)).filter
    fun word => !word.isEmpty

end ByteText

end CodeNavigator
