/-
This file reads JSON of a known form. A form says which kind of value is wanted and what it means;
a value of another kind is still read as far as its first bracket, so that a fault of grammar there
is reported before the wrong kind. A record may be written as an object, where members may stand in
any order and unknown ones are passed over, or as a list of its fields in order.
-/

import CodeNavigator.Json.Reader

namespace CodeNavigator.Json

/-- A reader of one form. It is told how many levels of brackets may still open. -/
abbrev Form (Result : Type) :=
  Nat → List UInt8 → Except Fault (Result × List UInt8)

/-- A value of a form that is not wanted. Where it is reported does not matter. -/
def unwanted : Fault :=
  ⟨.unexpectedForm, []⟩

/-- The fault of a value that is of another kind than wanted. -/
def otherKind (bytes : List UInt8) : Fault :=
  match readValue keptTokens 0 bytes with
  | .ok _ => unwanted
  | .error fault => if fault.cause = .nestingTooDeep then unwanted else fault

namespace Form

/-! ### Simple values -/

/-- A string. -/
def text : Form String := fun _ bytes =>
  match skipBlanks bytes with
  | byte :: rest => if byte = ascii '"' then readString rest else .error (otherKind (byte :: rest))
  | [] => .error (otherKind [])

/-- One of the two truth values. -/
def boolean : Form Bool := fun _ bytes =>
  match readValue keptTokens 0 bytes with
  | .ok (.boolean value, rest) => .ok (value, rest)
  | _ => .error (otherKind bytes)

/-- An integer between two bounds, both included. -/
def integer (low high : Int) : Form Int := fun _ bytes =>
  match readValue keptTokens 0 bytes with
  | .ok (.number (.integer value), rest) =>
    if low ≤ value ∧ value ≤ high then .ok (value, rest) else .error unwanted
  | _ => .error (otherKind bytes)

/-- An unsigned integer of so many bits. -/
def unsigned (bits : Nat) : Form Nat := fun levels bytes =>
  (integer 0 (Int.pow 2 bits - 1) levels bytes).map fun (value, rest) => (value.toNat, rest)

/-- Null, or a value of the form. -/
def optional {Result : Type} (form : Form Result) : Form (Option Result) := fun levels bytes =>
  match skipBlanks bytes with
  | byte :: rest =>
    if byte = ascii 'n' then
      (readWord ("ull".toList.map ascii) rest).map fun rest => (none, rest)
    else (form levels (byte :: rest)).map fun (value, rest) => (some value, rest)
  | [] => (form levels []).map fun (value, rest) => (some value, rest)

/-! ### Lists and choices -/

/-- Go one level of brackets down. -/
def nested {Result : Type} (bytes : List UInt8)
    (inside : Nat → Except Fault (Result × List UInt8)) : Nat → Except Fault (Result × List UInt8)
  | 0 => .error (.next .nestingTooDeep bytes)
  | levels + 1 => inside levels

/-- A list of values of one form. -/
def list {Item : Type} (form : Form Item) : Form (List Item) := fun levels bytes =>
  match skipBlanks bytes with
  | byte :: rest =>
    if byte = ascii '[' then
      nested (byte :: rest) (fun inner => readItems (form inner) (rest.length + 1) true rest) levels
    else .error (otherKind (byte :: rest))
  | [] => .error (otherKind [])

/-- An object with any members. -/
def object : Form (List (String × Value)) := fun levels bytes =>
  match readValue keptTokens levels bytes with
  | .ok (.object members, rest) => .ok (members, rest)
  | _ => .error (otherKind bytes)

/-- Null and nothing else. -/
def null : Form Unit := fun _ bytes =>
  match readValue keptTokens 0 bytes with
  | .ok (.null, rest) => .ok ((), rest)
  | _ => .error (otherKind bytes)

/-- What stands at the key of an object, which has to be a string. -/
def expectKey (bytes : List UInt8) : Except Fault (List UInt8) :=
  match skipBlanks bytes with
  | [] => .error ⟨.endInObject, []⟩
  | byte :: rest =>
    if byte = ascii '"' then .ok (byte :: rest) else .error (.next .keyNotString (byte :: rest))

/-- One of several names: as a string, or as an object with that one member, which is null. -/
def choice {Result : Type} (meaning : String → Option Result) : Form Result := fun levels bytes =>
  let named (rest : List UInt8) : Except Fault (Result × List UInt8) := do
    let (name, rest) ← text levels rest
    match meaning name with
    | some result => .ok (result, rest)
    | none => .error unwanted
  match skipBlanks bytes with
  | [] => .error ⟨.endInValue, []⟩
  | byte :: rest =>
    if byte = ascii '"' then named (byte :: rest)
    else if byte = ascii '\x7b' then
      nested (byte :: rest) (fun inner => do
        let (result, rest) ← named (← expectKey rest)
        let rest ← readColon rest
        let ((), rest) ← null inner rest
        match skipBlanks rest with
        | [] => .error ⟨.endInObject, []⟩
        | byte :: rest =>
          if byte = ascii '\x7d' then .ok (result, rest) else .error ⟨.expectedValue, rest⟩) levels
    else .error (.next .expectedValue (byte :: rest))

/-! ### Records -/

/-- A field of a record that is being read. The draft of the record holds the fields read so far.
In a list, the last fields of a record may be missing if they are marked so. -/
structure Field (Draft : Type) where
  name : String
  isFilled : Draft → Bool
  read : Draft → Form Draft
  mayBeMissing : Bool

/-- A field from the form of its value and the place that the draft keeps for it. -/
def field {Draft Result : Type} (name : String) (form : Form Result)
    (get : Draft → Option Result) (set : Draft → Result → Draft)
    (mayBeMissing : Bool) : Field Draft where
  name := name
  isFilled draft := (get draft).isSome
  read draft levels bytes :=
    (form levels bytes).map fun (value, rest) => (set draft value, rest)
  mayBeMissing := mayBeMissing

/-- Read the members of an object into a draft. A field that comes twice is refused before its
second value is read. -/
def readByName {Draft : Type} (fields : List (Field Draft)) (levels : Nat) :
    Nat → Bool → Draft → List UInt8 → Except Fault (Draft × List UInt8)
  | 0, _, _, bytes => .error ⟨.endInObject, bytes⟩
  | limit + 1, isFirst, draft, bytes => do
    match ← nextMember isFirst bytes with
    | .closed rest => .ok (draft, rest)
    | .another bytes =>
      let (name, rest) ← readString bytes
      match fields.find? fun field => field.name = name with
      | none =>
        let rest ← passValue (← readColon rest)
        readByName fields levels limit false draft rest
      | some field =>
        if field.isFilled draft then .error unwanted
        else
          let (draft, rest) ← field.read draft levels (← readColon rest)
          readByName fields levels limit false draft rest

/-- Read the items of a list into a draft, one for each field. -/
def readInOrder {Draft : Type} (levels : Nat) :
    List (Field Draft) → Bool → Draft → List UInt8 → Except Fault (Draft × List UInt8)
  | [], _, draft, bytes =>
    match skipBlanks bytes with
    | [] => .error ⟨.endInList, []⟩
    | byte :: rest =>
      if byte = ascii ']' then .ok (draft, rest)
      else .error (.next .trailingCharacters (byte :: rest))
  | field :: fields, isFirst, draft, bytes => do
    match ← nextItem isFirst bytes with
    | .closed rest =>
      if (field :: fields).all Field.mayBeMissing then .ok (draft, rest) else .error unwanted
    | .another bytes =>
      let (draft, rest) ← field.read draft levels bytes
      readInOrder levels fields false draft rest

/-- A record. The draft starts empty and is finished when all fields are read; a draft that lacks a
field it needs cannot be finished. -/
def record {Draft Result : Type} (fields : List (Field Draft)) (empty : Draft)
    (finish : Draft → Option Result) : Form Result := fun levels bytes =>
  let finished (draft : Draft) (rest : List UInt8) : Except Fault (Result × List UInt8) :=
    match finish draft with
    | some result => .ok (result, rest)
    | none => .error unwanted
  match skipBlanks bytes with
  | [] => .error (otherKind [])
  | byte :: rest =>
    if byte = ascii '\x7b' then
      nested (byte :: rest) (fun inner => do
        let (draft, rest) ← readByName fields inner (rest.length + 1) true empty rest
        finished draft rest) levels
    else if byte = ascii '[' then
      nested (byte :: rest) (fun inner => do
        let (draft, rest) ← readInOrder inner fields true empty rest
        finished draft rest) levels
    else .error (otherKind (byte :: rest))

/-! ### Documents -/

/-- Read a whole document of one form. What is wrong with any other document is told by its
category alone. -/
def decodeBytes {Result : Type} (form : Form Result) (document : List UInt8) :
    Except Category Result :=
  (readDocument (form nestingLimit) document).mapError fun fault => fault.cause.category

/-- Read a text of one form. -/
def decode {Result : Type} (form : Form Result) (document : String) : Except Category Result :=
  form.decodeBytes (Text.Utf8.encode document)

end Form

end CodeNavigator.Json
