/-
This file writes JSON values as text. The compact form has no blanks at all. The indented form puts
every item and every member on a line of its own, two spaces further in than the bracket around it,
and keeps empty lists and objects on one line. Both write a string with the same escapes.
-/

import CodeNavigator.Json.Value
import CodeNavigator.Text.Quoted

namespace CodeNavigator.Json

/-! ### Strings and numbers -/

/-- One character as it stands in a JSON string. -/
def escapedCharacter (character : Char) : List Char :=
  match character with
  | '"' => ['\\', '"']
  | '\\' => ['\\', '\\']
  | '\x08' => ['\\', 'b']
  | '\t' => ['\\', 't']
  | '\n' => ['\\', 'n']
  | '\x0c' => ['\\', 'f']
  | '\r' => ['\\', 'r']
  | other =>
    if other.toNat < 0x20 then
      ['\\', 'u', '0', '0', Nat.digitChar (other.toNat / 16), Nat.digitChar (other.toNat % 16)]
    else
      [other]

/-- A text as a JSON string. -/
def stringText (text : String) : List Char :=
  '"' :: text.toList.flatMap escapedCharacter ++ ['"']

def numberText : Number → List Char
  | .integer value => (toString value).toList
  | .decimal isNegative significand exponent =>
    (if isNegative then ['-'] else []) ++ (toString significand).toList ++
      'e' :: (toString exponent).toList

def booleanText (value : Bool) : List Char :=
  if value then ['t', 'r', 'u', 'e'] else ['f', 'a', 'l', 's', 'e']

/-! ### Brackets -/

/-- How the parts between two brackets are set apart. -/
structure Layout where
  opening : List Char
  between : List Char
  closing : List Char
  afterName : List Char

/-- Nothing but the commas and colons that the grammar asks for. -/
def Layout.compact : Layout :=
  ⟨[], [','], [], [':']⟩

/-- Every part on its own line, indented by its level. -/
def Layout.indented (level : Nat) : Layout :=
  let line (level : Nat) := '\n' :: List.replicate (2 * level) ' '
  ⟨line (level + 1), ',' :: line (level + 1), line level, [':', ' ']⟩

/-- Parts between two brackets. -/
def bracketed (layout : Layout) (left right : Char) : List (List Char) → List Char
  | [] => [left, right]
  | parts => left :: layout.opening ++ layout.between.intercalate parts ++ layout.closing ++ [right]

mutual

/-- The text of a value whose brackets at each level are laid out as given. -/
def valueText (layout : Nat → Layout) (level : Nat) : Value → List Char
  | .null => ['n', 'u', 'l', 'l']
  | .boolean value => booleanText value
  | .number value => numberText value
  | .string text => stringText text
  | .list items => bracketed (layout level) '[' ']' (itemTexts layout (level + 1) items)
  | .object members =>
    bracketed (layout level) '\x7b' '\x7d'
      (memberTexts layout (level + 1) (layout level).afterName members)

def itemTexts (layout : Nat → Layout) (level : Nat) : List Value → List (List Char)
  | [] => []
  | item :: items => valueText layout level item :: itemTexts layout level items

def memberTexts (layout : Nat → Layout) (level : Nat) (afterName : List Char) :
    List (String × Value) → List (List Char)
  | [] => []
  | (name, value) :: members =>
    (stringText name ++ afterName ++ valueText layout level value) ::
      memberTexts layout level afterName members

end

/-- The text of a value without blanks. -/
def Value.compact (value : Value) : String :=
  String.ofList (valueText (fun _ => .compact) 0 value)

/-- The text of a value with one part a line. -/
def Value.indented (value : Value) : String :=
  String.ofList (valueText Layout.indented 0 value)

end CodeNavigator.Json
