/-
This file carries out the assignments of a script. A variable takes a text, one element of a list
takes a text, or a list takes all its elements at once. Elements go to the positions or the names
that they tell, and else to the next free position.
-/

import CodeNavigator.Shell.Braces
import CodeNavigator.Shell.Interpreter

namespace CodeNavigator.Shell

section

variable (interpreter : Interpreter)

/-! ### Words of commands -/

/-- The fields of a word. A shell with extras first takes braces apart. -/
def expandWord (word : Word) : Action (List ByteText) := do
  let words := if (← get).hasExtras then expandBraces word else [word]
  let found ← words.mapM (expandFields (capture interpreter))
  pure found.flatten

/-! ### Elements -/

/-- Elements with one more, which takes the place of the one of the same position. -/
def putElement (position : Nat) (text : ByteText) :
    List (Nat × ByteText) → List (Nat × ByteText)
  | [] => [(position, text)]
  | element :: rest =>
    if element.1 = position then (position, text) :: rest
    else if position < element.1 then (position, text) :: element :: rest
    else element :: putElement position text rest

/-- Entries with one more, which takes the place of the one of the same name. -/
def putEntry (key text : ByteText) : List (ByteText × ByteText) → List (ByteText × ByteText)
  | [] => [(key, text)]
  | entry :: rest => if entry.1 = key then (key, text) :: rest else entry :: putEntry key text rest

/-- The elements of a variable, where a text counts as the first one. -/
def elementsOf (session : Session) (name : ByteText) : List (Nat × ByteText) :=
  match (session.named? name).map Variable.value with
  | some (.list elements) => elements
  | some (.text text) => [(0, text)]
  | _ => []

/-- The position that an index means in a variable. -/
def indexPosition (name : ByteText) (index : Word) : Action Nat := do
  let number ← compute (← expandText (capture interpreter) index)
  let elements := elementsOf (← get) name
  let length := ((elements.getLast?).map fun element => element.1 + 1).getD 0
  match positionOf length number with
  | some position => pure position
  | none =>
    fail (name ++ '[' :: (← expandText (capture interpreter) index) ++
      "]: bad array subscript".toList)

/-- Set an element, or put a text behind it. -/
def assignElement (name : ByteText) (index : Word) (isAppending : Bool) (text : ByteText) :
    Action Unit := do
  match ((← get).named? name).map Variable.value with
  | some (.table entries) =>
    let key ← expandText (capture interpreter) index
    let old := ((entries.find? fun entry => entry.1 = key).map Prod.snd).getD []
    assignValue name (.table (putEntry key (if isAppending then old ++ text else text) entries))
  | _ =>
    let position ← indexPosition interpreter name index
    let elements := elementsOf (← get) name
    let old := ((elements.find? fun element => element.1 = position).map Prod.snd).getD []
    assignValue name
      (.list (putElement position (if isAppending then old ++ text else text) elements))

/-- The index and the value of an element that tells its position or its name. -/
def indexed? (word : Word) : Option (Word × Word) :=
  match word with
  | .text false ('[' :: lead) :: rest =>
    let isClosing : Piece → Bool
      | .text false text => text.contains ']'
      | _ => false
    let pieces : Word := .text false lead :: rest
    let index := pieces.takeWhile fun piece => !isClosing piece
    match pieces.drop index.length with
    | .text _ text :: after =>
      let key := text.takeWhile (· ≠ ']')
      match text.drop key.length with
      | ']' :: '=' :: value => some (index ++ [.text true key], .text false value :: after)
      | _ => none
    | _ => none
  | _ => none

/-- Put the values of an assignment into a variable, those without an index one after the other. -/
def assignElements (name : ByteText) : List Word → Action Unit
  | [] => pure ()
  | word :: rest => do
    match indexed? word with
    | some (index, value) =>
      assignElement interpreter name index false (← expandValue (capture interpreter) value)
    | none =>
      for text in ← expandWord interpreter word do
        let elements := elementsOf (← get) name
        let next := ((elements.getLast?).map fun element => element.1 + 1).getD 0
        assignValue name (.list (elements ++ [(next, text)]))
    assignElements name rest

/-! ### Assignments -/

/-- The name of the variable that an assignment sets. -/
def Assignment.name : Assignment → ByteText
  | .text name _ _ _ => name
  | .list name _ _ => name

/-- Carry an assignment out, and tell how it looks. -/
def takeAssignment : Assignment → Action ByteText
  | .text name none isAppending value => do
    let text ← expandValue (capture interpreter) value
    let session ← get
    let old := if isAppending then (session.value? name).getD [] else []
    assign name (old ++ text)
    pure (name ++ '=' :: text)
  | .text name (some index) isAppending value => do
    let text ← expandValue (capture interpreter) value
    assignElement interpreter name index isAppending text
    pure (name ++ "[]=".toList ++ text)
  | .list name isAppending values => do
    let old := ((← get).named? name).map Variable.value
    let empty : Value := match old with
      | some (.table _) => .table []
      | _ => .list []
    if !isAppending then assignValue name empty
    assignElements interpreter name values
    if (elementsOf (← get) name).isEmpty && old.isNone then assignValue name empty
    pure (name ++ "=()".toList)

end

end CodeNavigator.Shell
