/-
This file defines the program that looks for lines which match patterns. Patterns are expressions in
one of two styles, or texts as they stand. What is written of a line that is chosen depends on the
options: the line, the parts that match, or only the name of the file or the number of such lines.
-/

import CodeNavigator.Text.RegularExpression
import CodeNavigator.Text.Wildcard
import CodeNavigator.Utility.Files

namespace CodeNavigator.Utility

namespace Grep

/-- The words about how the program is used. -/
def usage (name : ByteText) : ByteText :=
  "Usage: ".toList ++ name ++ " [OPTION]... PATTERNS [FILE]...\nTry '".toList ++ name ++
    " --help' for more information.\n".toList

/-- The options of `grep`. -/
def options : OptionSet where
  letters := "0123456789A:B:C:D:EFGHILPTUVX:abcd:e:f:hilm:noqRrsuvwxyZz"
  names := [("basic-regexp", .nothing, 'G'), ("extended-regexp", .nothing, 'E'),
    ("fixed-strings", .nothing, 'F'), ("perl-regexp", .nothing, 'P'),
    ("after-context", .required, 'A'), ("before-context", .required, 'B'),
    ("context", .required, 'C'), ("byte-offset", .nothing, 'b'), ("color", .optional, '!'),
    ("colour", .optional, '!'), ("count", .nothing, 'c'), ("exclude", .required, '-'),
    ("exclude-dir", .required, '/'), ("include", .required, '+'), ("file", .required, 'f'),
    ("files-with-matches", .nothing, 'l'), ("files-without-match", .nothing, 'L'),
    ("no-messages", .nothing, 's'), ("ignore-case", .nothing, 'i'),
    ("no-ignore-case", .nothing, '='), ("invert-match", .nothing, 'v'),
    ("line-number", .nothing, 'n'), ("line-regexp", .nothing, 'x'), ("max-count", .required, 'm'),
    ("no-filename", .nothing, 'h'), ("null", .nothing, 'Z'), ("null-data", .nothing, 'z'),
    ("only-matching", .nothing, 'o'), ("quiet", .nothing, 'q'), ("silent", .nothing, 'q'),
    ("recursive", .nothing, 'r'), ("dereference-recursive", .nothing, 'R'),
    ("regexp", .required, 'e'), ("text", .nothing, 'a'), ("with-filename", .nothing, 'H'),
    ("word-regexp", .nothing, 'w'), ("binary-files", .required, '#'),
    ("line-buffered", .nothing, 'u'), ("label", .required, '@'), ("group-separator", .required, '_')]
  usage := some usage

/-- Whether a pattern is a name of a class in single brackets. -/
def isLoneClass (pattern : ByteText) : Bool :=
  match pattern with
  | '[' :: ':' :: rest => rest.length ≥ 2 && rest.drop (rest.length - 2) = [':', ']'] &&
      !rest.contains '['
  | _ => false

/-- Read one pattern. -/
def readPattern (call : Call) (chosen : Chosen) (text : ByteText) : Job RegularExpression := do
  let kind := (chosen.last? ['E', 'F', 'G', 'P']).getD 'G'
  if kind = 'F' then pure (.ofText text)
  else
    if isLoneClass text then
      fail call 2 "character class syntax is [[:space:]], not [:space:]".toList
    match RegularExpression.read ⟨kind = 'E' || kind = 'P', ['*', '+', '?', '\x7b', ')'], []⟩ text with
    | .ok expression =>
      if kind ≠ 'G' && text.head? = some '*' then
        complain call "warning: * at start of expression".toList
      pure expression
    | .error fault => fail call 2 (ByteText.ofString fault.description)

/-- The matches of some expressions in a line, in order, without those that overlap. -/
def matchesIn (ignoresCase : Bool) (expressions : List RegularExpression) (line : ByteText) :
    List RegularExpression.Match :=
  match expressions with
  | [single] => single.allMatches ignoresCase line
  | several =>
    let all := several.flatMap fun expression => expression.allMatches ignoresCase line
    let ordered := all.mergeSort fun left right =>
      left.start < right.start || (left.start = right.start && right.finish ≤ left.finish)
    (ordered.foldl (fun (kept, finish) found =>
      if found.start < finish then (kept, finish) else (found :: kept, max finish found.finish))
      (([] : List RegularExpression.Match), 0)).1.reverse

/-- Whether a match stands as a word of its own. -/
def isWord (text : ByteText) (found : RegularExpression.Match) : Bool :=
  let isPart (position : Nat) : Bool :=
    (text[position]?).any RegularExpression.isWordCharacter
  !(0 < found.start && isPart (found.start - 1)) && !isPart found.finish

/-- The matches of a line that count. -/
def countedMatches (chosen : Chosen) (expressions : List RegularExpression) (line : ByteText) :
    List RegularExpression.Match :=
  let found := matchesIn (chosen.has 'i' || chosen.has 'y') expressions line
  if chosen.has 'x' then
    found.filter fun one => one.start = 0 && one.finish = line.length
  else if chosen.has 'w' then found.filter (isWord line)
  else found

/-- A line of a file: its number, the position of its first character, its text and the matches in
it. -/
structure Row where
  number : Nat
  offset : Nat
  text : ByteText
  found : List RegularExpression.Match
  isChosen : Bool

/-- The rows of a text. -/
def rowsOf (chosen : Chosen) (expressions : List RegularExpression) (lineEnd : Char) :
    Nat → Nat → List ByteText → List Row
  | _, _, [] => []
  | number, offset, line :: rest =>
    let found := countedMatches chosen expressions line
    ⟨number, offset, line, found, found.isEmpty = chosen.has 'v'⟩ ::
      rowsOf chosen expressions lineEnd (number + 1) (offset + line.length + 1) rest

/-- The rows up to the last one that is chosen among so many. -/
def limitRows : Nat → List Row → List Row
  | _, [] => []
  | 0, rest => rest.map fun row => { row with isChosen := false }
  | count + 1, row :: rest =>
    if row.isChosen then row :: limitRows count rest else row :: limitRows (count + 1) rest

/-- What stands before a line: the name of the file, the number and the position. -/
def leadOf (chosen : Chosen) (name : Option ByteText) (mark : Char) (number offset : Nat) :
    ByteText :=
  let fileName := match name with
    | some name => name ++ [if chosen.has 'Z' then '\x00' else mark]
    | none => []
  fileName ++ (if chosen.has 'n' then ByteText.ofNat number ++ [mark] else []) ++
    if chosen.has 'b' then ByteText.ofNat offset ++ [mark] else []

/-- The rows that are shown around those that are chosen, by their distances. -/
def shownRows (before after : Nat) (rows : List Row) : List Row :=
  let numbers := (rows.filter Row.isChosen).map Row.number
  rows.filter fun row => numbers.any fun number =>
    row.number ≤ number + after && number ≤ row.number + before

/-- The text of the rows that are shown, with a line between those that are apart. -/
def rowsText (chosen : Chosen) (name : Option ByteText) (lineEnd : Char) (hasContext : Bool) :
    Nat → List Row → ByteText
  | _, [] => []
  | last, row :: rest =>
    let separator := if hasContext && last ≠ 0 && last + 1 < row.number then "--\n".toList else []
    let mark := if row.isChosen then ':' else '-'
    separator ++ leadOf chosen name mark row.number row.offset ++ row.text ++ [lineEnd] ++
      rowsText chosen name lineEnd hasContext row.number rest

/-- The parts of the chosen rows that match, one on each line. -/
def partsText (chosen : Chosen) (name : Option ByteText) (lineEnd : Char) (rows : List Row) :
    ByteText :=
  rows.flatMap fun row =>
    if !row.isChosen || chosen.has 'v' then []
    else
      (row.found.filter fun found => found.start < found.finish).flatMap fun found =>
        leadOf chosen name ':' row.number (row.offset + found.start) ++ found.text row.text 0 ++
          [lineEnd]

/-- A number that an option asks for. -/
def numberOption (call : Call) (chosen : Chosen) (letter : Char) (message : String) :
    Job (Option Nat) := do
  match chosen.value? letter with
  | none => pure none
  | some text =>
    match Text.readDigits text with
    | some number => pure (some number)
    | none =>
      if text.head? = some '-' && letter = 'm' then pure none
      else fail call 2 (if letter = 'm' then message.toList
        else text ++ ByteText.ofString (": " ++ message))

mutual

/-- The files below a path that are looked at, with their paths. -/
def filesBelow (isLookedAt : Bool → ByteText → Bool) (path : ByteText) :
    FileTree → List ByteText
  | .directory _ entries => filesOfEntries isLookedAt path entries
  | .file _ _ => if isLookedAt false (lastName path) then [path] else []
  | _ => []

def filesOfEntries (isLookedAt : Bool → ByteText → Bool) (path : ByteText) :
    List (String × FileTree) → List ByteText
  | [] => []
  | (name, tree) :: rest =>
    let own := ByteText.ofString name
    let below := joinPath path own
    (if tree.isDirectory && !isLookedAt true own then [] else filesBelow isLookedAt below tree) ++
      filesOfEntries isLookedAt path rest

end

/-- What is done with each input, and what it comes to. -/
structure Task where
  chosen : Chosen
  expressions : List RegularExpression
  showsNames : Bool
  limit : Option Nat
  before : Nat
  after : Nat

/-- Look for lines in one text, write what is asked for, and tell whether any was chosen. -/
def searchText (call : Call) (task : Task) (name : ByteText) (text : ByteText) : Job Bool := do
  let chosen := task.chosen
  let lineEnd := if chosen.has 'z' then '\x00' else '\n'
  let pieces := Text.split lineEnd text
  let lines := if pieces.getLast? = some [] then pieces.dropLast else pieces
  let all := rowsOf chosen task.expressions lineEnd 1 0 lines
  let rows := match task.limit with
    | some limit => limitRows limit all
    | none => all
  let count := (rows.filter Row.isChosen).length
  let isFound := 0 < count
  let shownName := if task.showsNames then some name else none
  let isBinary := text.contains '\x00' && !chosen.has 'a' && !chosen.has 'z' &&
    chosen.value? '#' ≠ some "text".toList
  let nameEnd := if chosen.has 'Z' then '\x00' else '\n'
  if chosen.has 'q' then pure isFound
  else if chosen.has 'l' then
    if isFound then emit call (name ++ [nameEnd])
    pure isFound
  else if chosen.has 'L' then
    if !isFound then emit call (name ++ [nameEnd])
    pure isFound
  else if chosen.has 'c' then
    let lead := match shownName with
      | some name => name ++ [if chosen.has 'Z' then '\x00' else ':']
      | none => []
    emit call (lead ++ ByteText.ofNat count ++ ['\n'])
    pure isFound
  else if isBinary then
    if isFound then complain call (name ++ ": binary file matches".toList)
    pure isFound
  else
    if chosen.has 'o' then emit call (partsText chosen shownName lineEnd rows)
    else
      let hasContext := 0 < task.before || 0 < task.after
      emit call (rowsText chosen shownName lineEnd hasContext 0
        (shownRows task.before task.after rows))
    pure isFound

end Grep

/-- Look for lines in the inputs. Patterns are read in the style of some letters unless options ask
for another one. -/
def grepWith (style : List Char) : Utility := fun call => do
  let (given, operands) ← readOptions call 2 Grep.options
  let digits := given.filterMap fun option => if option.1.isDigit then some option.1 else none
  let chosen : Chosen := style.map (fun letter => (letter, [])) ++ given
  let number := Grep.numberOption call chosen
  let limit ← number 'm' "invalid max count"
  let around ← number 'C' "invalid context length argument"
  let after ← number 'A' "invalid context length argument"
  let before ← number 'B' "invalid context length argument"
  let context := around.getD (Text.digitsValue digits)
  let written := chosen.values 'e'
  let fromFiles ← (chosen.values 'f').mapM fun path => do
    match ← readInput path with
    | .ok text => pure (ByteText.lines text)
    | .error error => fail call 2 (fault (shown path) error)
  let isGiven := !written.isEmpty || !(chosen.values 'f').isEmpty
  if !isGiven && operands.isEmpty then
    Job.put 2 (Grep.usage call.name)
    throw (.exited 2)
  let patterns := if isGiven then written.flatMap (Text.split '\n') ++ fromFiles.flatten
    else Text.split '\n' (operands.head?.getD [])
  let paths := if isGiven then operands else operands.drop 1
  let expressions ← patterns.mapM (Grep.readPattern call chosen)
  let isDeep := chosen.has 'r' || chosen.has 'R'
  let inputs := if paths.isEmpty then if isDeep then [['.']] else [['-']] else paths
  let isLookedAt (isDirectory : Bool) (name : ByteText) : Bool :=
    let fitsAny (letter : Char) : Bool := (chosen.values letter).any fun pattern =>
      (Wildcard.ofMarked (MarkedText.plain pattern)).fits name
    if isDirectory then !fitsAny '/'
    else (!chosen.has '+' || fitsAny '+') && !fitsAny '-'
  let found ← inputs.mapM fun path => do
    let tree ← if isDeep && path ≠ ['-'] then find path else pure (.error .noSuchFile)
    match tree with
    | .ok (.directory _ entries) =>
      let below := Grep.filesOfEntries isLookedAt path entries
      pure (below.map fun path => if paths.isEmpty then path.drop 2 else path)
    | _ => pure [path]
  let all := found.flatten
  let showsNames := !chosen.has 'h' && (chosen.has 'H' || 1 < inputs.length || isDeep) ||
    chosen.last? ['h', 'H'] = some 'H'
  let task : Grep.Task :=
    ⟨chosen, expressions, showsNames, limit, before.getD context, after.getD context⟩
  let results ← all.mapM fun path => do
    match ← readInput path with
    | .ok text =>
      let name := if path = ['-'] then
          (chosen.value? '@').getD "(standard input)".toList else path
      pure (some (← Grep.searchText call task name text))
    | .error error =>
      if !chosen.has 's' then
        complain call (fault (shown path) error)
      pure none
  let isFound := results.any fun result => result = some true
  let isLost := results.any Option.isNone
  let isMet := if chosen.has 'L' then results.any (fun result => result = some false) else isFound
  pure (if isLost && !(chosen.has 'q' && isFound) then 2 else if isMet then 0 else 1)

end CodeNavigator.Utility
