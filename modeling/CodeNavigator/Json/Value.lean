/-
This file defines JSON values. Objects keep their members in the order in which they were read, and
of several members with one name the last one counts. A number is an integer when it is written as
one and fits in 64 bits; any other number keeps its significand and its power of ten.
-/

namespace CodeNavigator.Json

/-- A JSON number. -/
inductive Number
  | integer (value : Int)
  | decimal (isNegative : Bool) (significand : Nat) (exponent : Int)
deriving DecidableEq

/-- A JSON value. -/
inductive Value
  | null
  | boolean (value : Bool)
  | number (value : Number)
  | string (value : String)
  | list (items : List Value)
  | object (members : List (String × Value))

/-- The member of that name that counts: the last one. -/
def member? (members : List (String × Value)) (name : String) : Option Value :=
  (members.reverse.find? fun member => member.1 = name).map Prod.snd

/-- The members that count: of each name the last one. -/
def lastOfEach : List (String × Value) → List (String × Value)
  | [] => []
  | member :: rest =>
    if rest.any fun later => later.1 = member.1 then lastOfEach rest
    else member :: lastOfEach rest

namespace Value

/-- The value as an integer number. -/
def ofNat (value : Nat) : Value :=
  .number (.integer value)

def asObject? : Value → Option (List (String × Value))
  | .object members => some members
  | _ => none

def asString? : Value → Option String
  | .string text => some text
  | _ => none

/-- The text, or null where there is none. -/
def ofText? : Option String → Value
  | some text => .string text
  | none => .null

end Value

end CodeNavigator.Json
