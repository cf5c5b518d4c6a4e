/-
This file reads the query of a request. A query is a list of pairs between ampersands, each a name
and a value around an equals sign; plus signs stand for spaces, and any byte may be written by two
hexadecimal digits after a percent sign. A percent sign without them stands for itself.
-/

import CodeNavigator.Json.StringToken
import CodeNavigator.Text.Decimal
import CodeNavigator.Text.Split

namespace CodeNavigator.Http

open Json (ascii hexValue?)

/-- The bytes that an encoded text stands for. -/
def percentDecode : List UInt8 → List UInt8
  | percent :: high :: low :: rest =>
    if percent = ascii '%' then
      match hexValue? high, hexValue? low with
      | some high, some low => UInt8.ofNat (high * 16 + low) :: percentDecode rest
      | _, _ => percent :: percentDecode (high :: low :: rest)
    else percent :: percentDecode (high :: low :: rest)
  | short => short

/-- The text of a name or a value. -/
def queryText (bytes : List UInt8) : String :=
  Text.Utf8.repair
    (percentDecode (bytes.map fun byte => if byte = ascii '+' then ascii ' ' else byte))

/-- The pairs of a query. -/
def queryPairs (query : String) : List (String × String) :=
  ((Text.split (ascii '&') (Text.Utf8.encode query)).filter fun pair => !pair.isEmpty).map
    fun pair =>
      let (name, value) := Text.cutFirst (ascii '=') pair
      (queryText name, queryText value)

/-- The depth that a query asks for: none if it names none. It is refused if it is named twice or is
no number of 64 bits. -/
def queryDepth (query : String) : Option (Option Nat) :=
  match (queryPairs query).filter fun pair => pair.1 = "depth" with
  | [] => some none
  | [(_, value)] => (Text.readUnsigned (Nat.pow 2 64) value.toList).map some
  | _ => none

end CodeNavigator.Http
