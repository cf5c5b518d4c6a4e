/-
This file interprets what the oracle says about a position in a source file. The oracle describes
the thing at the position by an object, and the description tells where the thing is defined: an
identifier by the position of its object, a type by the position of its name. A source file leads
nowhere, and for all else there is an explanation to show. Output that does not have this form is
refused with the first thing that is missing.
-/

import CodeNavigator.Failure
import CodeNavigator.Json.Reader

namespace CodeNavigator

/-- Why a position leads to no definition. -/
inductive Explanation
  | notAvailable
  | alreadyAtDefinition (name : String)
  | notADefinition (description : String)
deriving DecidableEq

def Explanation.message : Explanation → String
  | .notAvailable => "Definition not available."
  | .alreadyAtDefinition name => "Already at a definition: " ++ name
  | .notADefinition description =>
    "Selected position does not refer to a definition. Rather, it's a:\n" ++ description

/-- Where a position leads. -/
inductive Finding
  | nowhere
  | location (place : SourceLocation)
  | explained (explanation : Explanation)
deriving DecidableEq

namespace Finding

/-- The words that begin the description of a definition. -/
def definitionWords : String := "definition of "

/-- What follows some words at the beginning of a text. -/
def afterWords? (words text : String) : Option String :=
  (words.toList.isPrefixOf? text.toList).map String.ofList

/-- A member that has to be an object. -/
def objectMember (members : List (String × Json.Value)) (name : String) :
    Except Malformation (List (String × Json.Value)) :=
  match (Json.member? members name).bind Json.Value.asObject? with
  | some inner => .ok inner
  | none => .error (.missingObject name)

/-- A member that is a string. A member of any other kind counts as absent. -/
def stringMember? (members : List (String × Json.Value)) (name : String) : Option String :=
  (Json.member? members name).bind Json.Value.asString?

/-- The place that a member gives by its position text. -/
def ofPosition (members : List (String × Json.Value)) (name : String) :
    Except Malformation Finding :=
  match stringMember? members name with
  | none => .ok (.explained .notAvailable)
  | some text =>
    match SourceLocation.read text ":" with
    | .ok place => .ok (Finding.location place)
    | .error invalid => .error (.position invalid)

/-- Where the description of a thing leads. -/
def ofDescription (members : List (String × Json.Value)) : Except Malformation Finding :=
  match stringMember? members "desc" with
  | none => .error (.missingString "desc")
  | some description =>
    if description = "source file" then .ok .nowhere
    else if description = "identifier" then do
      ofPosition (← objectMember members "value") "objpos"
    else if stringMember? members "detail" = some "type" then
      match afterWords? definitionWords description with
      | some name => .ok (.explained (.alreadyAtDefinition name))
      | none => do ofPosition (← objectMember members "type") "namepos"
    else .ok (.explained (.notADefinition description))

/-- Where a whole document leads. -/
def ofDocument : Json.Value → Except Malformation Finding
  | .object members => do ofDescription (← objectMember members "describe")
  | _ => .error .notAnObject

/-- Where the output of the oracle leads, whatever its exit code was. -/
def ofText (output : String) : Except OracleError Finding :=
  match Json.parse output with
  | .error error => .error (.malformedOutput (.undecodable error))
  | .ok document => (ofDocument document).mapError .malformedOutput

/-- Where a finished call of the oracle leads. Its output counts only if it ended well. -/
def ofOutput (output : String) (exitCode : Int32) : Except OracleError Finding :=
  if exitCode = 0 then ofText output else .error (.failedCall exitCode)

end Finding

end CodeNavigator
