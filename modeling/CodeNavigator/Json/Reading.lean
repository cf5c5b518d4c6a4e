/-
This file fixes how JSON is read from bytes. A reader takes the unread bytes and gives its result
with the bytes that follow it, or a fault. Here are the parts that every reader shares: blanks and
the words that stand for themselves.
-/

import CodeNavigator.Json.Fault
import CodeNavigator.Json.Value

namespace CodeNavigator.Json

/-- The result of reading at some place: a value and the bytes after it. -/
abbrev Reading (Result : Type) :=
  Except Fault (Result × List UInt8)

/-- The byte of an ASCII character. -/
def ascii (character : Char) : UInt8 :=
  character.toUInt8

def isBlank (byte : UInt8) : Bool :=
  byte = ascii ' ' || byte = ascii '\n' || byte = ascii '\t' || byte = ascii '\r'

/-- The bytes from the first that is not blank. -/
def skipBlanks (bytes : List UInt8) : List UInt8 :=
  bytes.dropWhile isBlank

/-- Read the given bytes. -/
def readWord : List UInt8 → List UInt8 → Except Fault (List UInt8)
  | [], bytes => .ok bytes
  | _ :: _, [] => .error ⟨.endInValue, []⟩
  | expected :: word, byte :: rest =>
    if byte = expected then readWord word rest else .error ⟨.expectedWord, rest⟩

end CodeNavigator.Json
