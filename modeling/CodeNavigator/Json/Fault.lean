/-
This file says what can be wrong with the text of a JSON document and where. While a document is
read, a fault keeps the bytes that were still unread; the line and the column are worked out from
their number at the end. Lines and columns count bytes, and a newline ends a line.
-/

namespace CodeNavigator.Json

/-- What can be wrong with a JSON text. -/
inductive Cause
  | endInValue
  | endInList
  | endInObject
  | endInString
  | expectedValue
  | expectedWord
  | keyNotString
  | expectedColon
  | expectedCommaOrBracket
  | expectedCommaOrBrace
  | trailingComma
  | trailingCharacters
  | invalidNumber
  | numberOutOfRange
  | controlCharacter
  | invalidEscape
  | loneSurrogate
  | unfinishedSurrogatePair
  | invalidCodePoint
  | nestingTooDeep
  | unexpectedForm
deriving DecidableEq

def Cause.message : Cause → String
  | .endInValue => "EOF while parsing a value"
  | .endInList => "EOF while parsing a list"
  | .endInObject => "EOF while parsing an object"
  | .endInString => "EOF while parsing a string"
  | .expectedValue => "expected value"
  | .expectedWord => "expected ident"
  | .keyNotString => "key must be a string"
  | .expectedColon => "expected `:`"
  | .expectedCommaOrBracket => "expected `,` or `]`"
  | .expectedCommaOrBrace => "expected `,` or `\x7d`"
  | .trailingComma => "trailing comma"
  | .trailingCharacters => "trailing characters"
  | .invalidNumber => "invalid number"
  | .numberOutOfRange => "number out of range"
  | .controlCharacter => "control character (\\u0000-\\u001F) found while parsing a string"
  | .invalidEscape => "invalid escape"
  | .loneSurrogate => "lone leading surrogate in hex escape"
  | .unfinishedSurrogatePair => "unexpected end of hex escape"
  | .invalidCodePoint => "invalid unicode code point"
  | .nestingTooDeep => "recursion limit exceeded"
  | .unexpectedForm => "unexpected form"

/-- The three ways in which a text can fail: it breaks off, it is no JSON, or it is JSON of another
form than the one wanted. -/
inductive Category
  | ended
  | grammar
  | form
deriving DecidableEq

def Cause.category : Cause → Category
  | .endInValue | .endInList | .endInObject | .endInString => .ended
  | .unexpectedForm => .form
  | _ => .grammar

/-- A fault met while reading, with the bytes that follow the place it is reported at. -/
structure Fault where
  cause : Cause
  unread : List UInt8
deriving DecidableEq

/-- A fault reported after the byte that comes next, if there is one. Any other fault is reported
after the bytes read so far. -/
def Fault.next (cause : Cause) (unread : List UInt8) : Fault :=
  ⟨cause, unread.drop 1⟩

/-! ### Lines and columns -/

/-- A fault in the text of a document, with its line and column. -/
structure TextError where
  cause : Cause
  line : Nat
  column : Nat
deriving DecidableEq

def TextError.message (error : TextError) : String :=
  error.cause.message ++ " at line " ++ toString error.line ++ " column " ++
    toString error.column

def newline : UInt8 := 10

/-- The line and column reached after some bytes: one line more than there are newlines, and as
many columns as there are bytes since the last of them. -/
def lineAndColumn (bytes : List UInt8) : Nat × Nat :=
  (bytes.count newline + 1, (bytes.reverse.takeWhile (· ≠ newline)).length)

/-- A fault with its place in the document it was met in. -/
def Fault.locate (document : List UInt8) (fault : Fault) : TextError :=
  let (line, column) := lineAndColumn (document.take (document.length - fault.unread.length))
  ⟨fault.cause, line, column⟩

end CodeNavigator.Json
