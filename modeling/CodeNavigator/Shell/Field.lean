/-
This file divides expanded words into fields. The values of all pieces of a word make a row of cells,
and the row is divided where expanded text that is not quoted holds a separator. Quoting protects
text from being divided and from being a pattern.
-/

import CodeNavigator.FileTree.Access
import CodeNavigator.Text.Wildcard

namespace CodeNavigator.Shell

/-! ### Cells -/

/-- One cell of an expanded word. A presence makes a field even of no text, and a boundary ends
one; where nothing is divided, a boundary between joined values is a separator. -/
inductive Cell
  | written (isQuoted : Bool) (character : Char)
  | expanded (character : Char)
  | presence
  | boundary (isJoined : Bool)
deriving DecidableEq

/-- The cells of an expansion. -/
def cellsOf (isQuoted : Bool) (text : ByteText) : List Cell :=
  text.map fun character => if isQuoted then .written true character else .expanded character

/-- The cells of several values, each of them a field of its own. -/
def separateCells (isQuoted isJoined : Bool) (values : List ByteText) : List Cell :=
  let one (value : ByteText) : List Cell :=
    if isQuoted then .presence :: cellsOf true value else cellsOf false value
  match values with
  | [] => []
  | first :: rest => one first ++ rest.flatMap fun value => .boundary isJoined :: one value

/-- The text of a word that is not divided. Joined values have the given text between them. -/
def textOf (joint : ByteText) (cells : List Cell) : ByteText :=
  cells.flatMap fun
    | .written _ character => [character]
    | .expanded character => [character]
    | .presence => []
    | .boundary isJoined => if isJoined then joint else [' ']

/-- The text of a word that is not divided, with its quoted characters marked. -/
def markedTextOf (cells : List Cell) : MarkedText :=
  cells.filterMap fun
    | .written isQuoted character => some (isQuoted, character)
    | .expanded character => some (false, character)
    | .presence => none
    | .boundary _ => some (false, ' ')

/-- Cells in the place of a quoted expansion, where none of them can be divided. -/
def quotedCells (cells : List Cell) : List Cell :=
  cells.map fun
    | .expanded character => .written true character
    | .written _ character => .written true character
    | cell => cell

/-! ### Fields -/

/-- A row of cells under division: the finished fields, the field under way, and whether the last
separator was a blank. -/
structure Division where
  finished : List MarkedText
  current : Option MarkedText
  followsBlank : Bool

namespace Division

def extend (division : Division) (isQuoted : Bool) (character : Char) : Division :=
  { division with
    current := some ((isQuoted, character) :: division.current.getD [])
    followsBlank := false }

/-- End the field under way, if there is one. -/
def close (division : Division) : Division :=
  match division.current with
  | some field => { division with finished := field.reverse :: division.finished, current := none }
  | none => division

/-- Whether a separator may be repeated without making more fields. -/
def isBlankSeparator (character : Char) : Bool :=
  character = ' ' || character = '\t' || character = '\n'

/-- Divide at one more cell. Any number of blanks is one separator, and so is one other separator
with the blanks around it. -/
def step (separators : ByteText) (division : Division) : Cell → Division
  | .written isQuoted character => division.extend isQuoted character
  | .expanded character =>
    if !separators.contains character then division.extend false character
    else if isBlankSeparator character then
      { division.close with followsBlank := division.current.isSome || division.followsBlank }
    else if division.current.isNone && division.followsBlank then
      { division with followsBlank := false }
    else { division with current := some (division.current.getD []) }.close
  | .presence => { division with current := some (division.current.getD []), followsBlank := false }
  | .boundary _ => division.close

end Division

/-- The fields of a row of cells. -/
def fields (separators : ByteText) (cells : List Cell) : List MarkedText :=
  (cells.foldl (Division.step separators) ⟨[], none, false⟩).close.finished.reverse

/-! ### Paths -/

/-- The name of a directory that a path leads into. -/
def directoryOf (lead : ByteText) : Path :=
  ⟨if lead.isEmpty then "." else ByteText.asString lead⟩

/-- The pattern that a field or a part of it writes. A shell with extras also knows the caret. -/
def wildcardOf (hasExtras : Bool) (text : MarkedText) : Wildcard :=
  if hasExtras then .ofMarkedWithCaret text else .ofMarked text

/-- The names that patterns may stand for in a directory. A shell without extras adds the name of
the directory itself and that of the one above. -/
def namesIn (hasExtras : Bool) (entries : List (String × FileTree)) : List ByteText :=
  let names := entries.map fun entry => ByteText.ofString entry.1
  if hasExtras then names else ['.'] :: ['.', '.'] :: names

/-- The paths below a directory that some patterns stand for, one pattern for each name. -/
def expandPaths (hasExtras : Bool) (tree : FileTree) (place : FileTree.Place)
    (lead : ByteText) : List MarkedText → List ByteText
  | [] => [lead]
  | segment :: rest =>
    if segment.any Wildcard.isActive then
      match tree.readDirectory place (directoryOf lead) with
      | .error _ => []
      | .ok entries =>
        let pattern := wildcardOf hasExtras segment
        let isHiddenAsked := (segment.map Prod.snd).head? = some '.'
        let names := (namesIn hasExtras entries).filter fun name =>
          (isHiddenAsked || name.head? ≠ some '.') && pattern.fits name
        (names.mergeSort fun left right => decide (left ≤ right)).flatMap fun name =>
          if rest.isEmpty then [lead ++ name]
          else expandPaths hasExtras tree place (lead ++ name ++ ['/']) rest
    else
      let path := lead ++ segment.map Prod.snd
      if rest.isEmpty then
        if path.isEmpty || (tree.resolveLink place ⟨ByteText.asString path⟩).toOption.isSome then
          [path]
        else []
      else expandPaths hasExtras tree place (path ++ ['/']) rest

/-- The texts of a field: the paths that it stands for as a pattern, or else the field itself. -/
def expandField (hasExtras : Bool) (tree : FileTree) (place : FileTree.Place)
    (field : MarkedText) : List ByteText :=
  let plain := MarkedText.bare field
  if !field.any Wildcard.isActive then [plain]
  else
    let segments := (Text.split '/' plain).foldl
      (fun (segments, rest) segment =>
        (segments ++ [rest.take segment.length], rest.drop (segment.length + 1)))
      (([] : List MarkedText), field)
    match expandPaths hasExtras tree place [] segments.1 with
    | [] => [plain]
    | paths => paths

end CodeNavigator.Shell
