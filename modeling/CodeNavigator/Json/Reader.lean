/-
This file reads JSON values. The reader goes once from left to right and stops at the first fault.
Its structure is fixed here for every use: what separates the items of a list and the members of an
object, what ends them, and how deep brackets may nest. Only the readers of strings and numbers are
exchanged when a value is merely passed over.
-/

import CodeNavigator.Json.NumberToken
import CodeNavigator.Json.StringToken

namespace CodeNavigator.Json

/-! ### Lists and objects -/

/-- How a list or an object goes on: it is closed, or another part follows. -/
inductive Turn
  | closed (rest : List UInt8)
  | another (bytes : List UInt8)

/-- Where the next item of a list begins, the bracket that opens it already read. -/
def nextItem (isFirst : Bool) (bytes : List UInt8) : Except Fault Turn :=
  match skipBlanks bytes with
  | [] => .error ⟨.endInList, []⟩
  | byte :: rest =>
    if byte = ascii ']' then .ok (.closed rest)
    else if isFirst then .ok (.another (byte :: rest))
    else if byte = ascii ',' then
      match skipBlanks rest with
      | [] => .error ⟨.endInValue, []⟩
      | first :: others =>
        if first = ascii ']' then .error (.next .trailingComma (first :: others))
        else .ok (.another (first :: others))
    else .error (.next .expectedCommaOrBracket (byte :: rest))

/-- Where the name of the next member of an object begins, the brace that opens the object already
read. The quote that opens the name is passed over. -/
def nextMember (isFirst : Bool) (bytes : List UInt8) : Except Fault Turn :=
  match skipBlanks bytes with
  | [] => .error ⟨.endInObject, []⟩
  | byte :: rest =>
    if byte = ascii '\x7d' then .ok (.closed rest)
    else if isFirst then
      if byte = ascii '"' then .ok (.another rest)
      else .error (.next .keyNotString (byte :: rest))
    else if byte = ascii ',' then
      match skipBlanks rest with
      | [] => .error ⟨.endInValue, []⟩
      | first :: others =>
        if first = ascii '"' then .ok (.another others)
        else if first = ascii '\x7d' then .error (.next .trailingComma (first :: others))
        else .error (.next .keyNotString (first :: others))
    else .error (.next .expectedCommaOrBrace (byte :: rest))

/-- Read the colon after the name of a member. -/
def readColon (bytes : List UInt8) : Except Fault (List UInt8) :=
  match skipBlanks bytes with
  | [] => .error ⟨.endInObject, []⟩
  | byte :: rest =>
    if byte = ascii ':' then .ok rest else .error (.next .expectedColon (byte :: rest))

/-- Read the items of a list. Every item takes a byte, so no list has more items than bytes. -/
def readItems {Item : Type} (readItem : List UInt8 → Reading Item) :
    Nat → Bool → List UInt8 → Except Fault (List Item × List UInt8)
  | 0, _, bytes => .error ⟨.endInList, bytes⟩
  | limit + 1, isFirst, bytes => do
    match ← nextItem isFirst bytes with
    | .closed rest => .ok ([], rest)
    | .another bytes =>
      let (item, rest) ← readItem bytes
      let (items, rest) ← readItems readItem limit false rest
      .ok (item :: items, rest)

/-- Read the members of an object, each as its name and its value. -/
def readMembers {Member : Type} (readName : List UInt8 → Reading String)
    (readMember : List UInt8 → Reading Member) :
    Nat → Bool → List UInt8 → Except Fault (List (String × Member) × List UInt8)
  | 0, _, bytes => .error ⟨.endInObject, bytes⟩
  | limit + 1, isFirst, bytes => do
    match ← nextMember isFirst bytes with
    | .closed rest => .ok ([], rest)
    | .another bytes =>
      let (name, rest) ← readName bytes
      let rest ← readColon rest
      let (member, rest) ← readMember rest
      let (members, rest) ← readMembers readName readMember limit false rest
      .ok ((name, member) :: members, rest)

/-! ### Values -/

/-- The readers of the tokens that have contents. -/
structure TokenReaders where
  string : List UInt8 → Reading String
  number : List UInt8 → Reading Number

/-- The tokens of a value that is kept. -/
def keptTokens : TokenReaders :=
  ⟨readString, readNumber⟩

/-- The tokens of a value that is passed over. -/
def passedTokens : TokenReaders :=
  ⟨passString, passNumber⟩

/-- Read a value in which brackets nest at most so many levels deep. -/
def readValue (tokens : TokenReaders) : Nat → List UInt8 → Reading Value
  | levels, bytes =>
    match skipBlanks bytes with
    | [] => .error ⟨.endInValue, []⟩
    | byte :: rest =>
      if byte = ascii 'n' then
        (readWord ("ull".toList.map ascii) rest).map fun rest => (.null, rest)
      else if byte = ascii 't' then
        (readWord ("rue".toList.map ascii) rest).map fun rest => (.boolean true, rest)
      else if byte = ascii 'f' then
        (readWord ("alse".toList.map ascii) rest).map fun rest => (.boolean false, rest)
      else if byte = ascii '"' then
        (tokens.string rest).map fun (text, rest) => (.string text, rest)
      else if byte = ascii '-' || isDigit byte then
        (tokens.number (byte :: rest)).map fun (number, rest) => (.number number, rest)
      else if byte = ascii '[' || byte = ascii '\x7b' then
        match levels with
        | 0 => .error (.next .nestingTooDeep (byte :: rest))
        | inner + 1 =>
          if byte = ascii '[' then
            (readItems (readValue tokens inner) (rest.length + 1) true rest).map
              fun (items, rest) => (.list items, rest)
          else
            (readMembers tokens.string (readValue tokens inner) (rest.length + 1) true rest).map
              fun (members, rest) => (.object members, rest)
      else .error (.next .expectedValue (byte :: rest))

/-- Pass over a value, however deep its brackets nest. -/
def passValue (bytes : List UInt8) : Except Fault (List UInt8) :=
  (readValue passedTokens bytes.length bytes).map Prod.snd

/-! ### Documents -/

/-- How many levels of brackets a document may have. -/
def nestingLimit : Nat := 127

/-- Read a whole document: one value with nothing but blanks around it. -/
def readDocument {Result : Type} (read : List UInt8 → Reading Result) (document : List UInt8) :
    Except Fault Result := do
  let (result, rest) ← read document
  match skipBlanks rest with
  | [] => .ok result
  | byte :: others => .error (.next .trailingCharacters (byte :: others))

/-- The value that a text writes. -/
def parse (text : String) : Except TextError Value :=
  let document := Text.Utf8.encode text
  (readDocument (readValue keptTokens nestingLimit) document).mapError (Fault.locate document)

end CodeNavigator.Json
