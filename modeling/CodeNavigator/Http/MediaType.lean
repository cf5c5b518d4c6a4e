/-
This file reads media types, as the header that names the type of a body carries them: a type, a
slash, a subtype with perhaps a suffix after its last plus sign, and parameters. The type decides
whether a body is taken for JSON. A text that breaks the grammar anywhere, in a parameter too, is no
media type.
-/

import CodeNavigator.Text.Split

namespace CodeNavigator.Http

/-- Whether a character may stand in a name. -/
def isTokenCharacter (character : Char) : Bool :=
  character.isAlphanum || "!#$%&'*+-.^_`|~".toList.contains character

/-- Whether a character may stand between the quotes of a parameter. -/
def isQuotable (character : Char) : Bool :=
  0x20 ≤ character.toNat && character.toNat < 0x7F

/-- A media type without its parameters. -/
structure MediaType where
  type : List Char
  subtype : List Char
  suffix : Option (List Char)

/-! ### Parameters -/

/-- Where in the parameters a reader stands: before a name, in a name, at the start of a value, in a
value, between quotes, or after the closing quote. -/
inductive ParameterState
  | beforeName
  | name
  | valueStart
  | value
  | quoted (isEmpty : Bool)
  | closed
deriving DecidableEq

/-- The state after one more character, unless it cannot stand there. -/
def ParameterState.next (character : Char) : ParameterState → Option ParameterState
  | .beforeName =>
    if character = ' ' then some .beforeName
    else if isTokenCharacter character then some .name
    else none
  | .name =>
    if character = '=' then some .valueStart
    else if isTokenCharacter character then some .name
    else none
  | .valueStart =>
    if character = '"' then some (.quoted true)
    else if isTokenCharacter character then some .value
    else none
  | .value =>
    if character = ';' then some .beforeName
    else if isTokenCharacter character then some .value
    else none
  | .quoted isEmpty =>
    if character = '"' && !isEmpty then some .closed
    else if isQuotable character then some (.quoted false)
    else none
  | .closed =>
    if character = ';' then some .beforeName
    else if character = ' ' then some .closed
    else none

/-- Whether the parameters may end here. -/
def ParameterState.isFinal : ParameterState → Bool
  | .name | .quoted _ => false
  | _ => true

/-- Whether a text is a list of parameters. -/
def areParameters (text : List Char) : Bool :=
  match text.foldlM (fun state character => ParameterState.next character state) .beforeName with
  | some state => state.isFinal
  | none => false

/-! ### Media types -/

/-- The subtype and the suffix of a name. A plus sign at its very start does not count. -/
def splitSuffix (name : List Char) : List Char × Option (List Char) :=
  match Text.cutLast ['+'] (name.drop 1) with
  | some (before, suffix) => (name.take 1 ++ before, some suffix)
  | none => (name, none)

/-- Read a media type. Its names count without regard to case. -/
def MediaType.read (text : String) : Option MediaType :=
  let (type, afterType) := Text.cutFirst '/' text.toList
  let (name, parameters) := Text.cutFirst ';' afterType
  if !type.isEmpty && type.all isTokenCharacter && name.all isTokenCharacter &&
      text.toList.contains '/' && (!name.isEmpty || !afterType.contains ';') &&
      areParameters parameters then
    let (subtype, suffix) := splitSuffix name
    some ⟨type.map Char.toLower, subtype.map Char.toLower, suffix.map (·.map Char.toLower)⟩
  else none

/-- Whether a body of this type is JSON. -/
def MediaType.isJson (mediaType : MediaType) : Bool :=
  mediaType.type = "application".toList &&
    (mediaType.subtype = "json".toList || mediaType.suffix = some "json".toList)

end CodeNavigator.Http
