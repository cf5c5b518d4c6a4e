/-
This file defines the programs that order lines, and those that expect lines in order: to leave out
those that repeat, and to tell what two inputs have in common.
-/

import CodeNavigator.Text.Floating
import CodeNavigator.Utility.Basic

namespace CodeNavigator.Utility

/-! ### Orders -/

/-- How two texts are compared: by their numbers in some notation or as they are, with some of their
characters left out, and in which direction. -/
structure Comparing where
  isNumeric : Bool
  isGeneral : Bool
  isHuman : Bool
  isVersion : Bool
  isMonth : Bool
  ignoresCase : Bool
  ignoresBlanks : Bool
  isDictionary : Bool
  isPrintableOnly : Bool
  isReversed : Bool

/-- Texts as they are. -/
def Comparing.plain : Comparing :=
  ⟨false, false, false, false, false, false, false, false, false, false⟩

/-- A comparison with what a letter asks for. -/
def Comparing.with (comparing : Comparing) : Char → Option Comparing
  | 'n' => some { comparing with isNumeric := true }
  | 'g' => some { comparing with isGeneral := true }
  | 'h' => some { comparing with isHuman := true }
  | 'V' => some { comparing with isVersion := true }
  | 'M' => some { comparing with isMonth := true }
  | 'f' => some { comparing with ignoresCase := true }
  | 'b' => some { comparing with ignoresBlanks := true }
  | 'd' => some { comparing with isDictionary := true }
  | 'i' => some { comparing with isPrintableOnly := true }
  | 'r' => some { comparing with isReversed := true }
  | _ => none

/-- A decimal number as a whole number of its smallest places: its sign, and its digits before and
behind the point. -/
structure Amount where
  isNegative : Bool
  whole : Nat
  places : ByteText

/-- The number that a text begins with. -/
def amountOf (text : ByteText) : Amount × ByteText :=
  let trimmed := text.dropWhile ByteText.isBlank
  let (isNegative, digits) := match trimmed with
    | '-' :: rest => (true, rest)
    | all => (false, all)
  let whole := digits.takeWhile Char.isDigit
  let rest := digits.drop whole.length
  let places := match rest with
    | '.' :: behind => behind.takeWhile Char.isDigit
    | _ => []
  let after := match rest with
    | '.' :: behind => behind.drop places.length
    | other => other
  (⟨isNegative, Text.digitsValue whole, places⟩, after)

/-- An amount as a number of its places, when there are so many. -/
def Amount.scaled (amount : Amount) (count : Nat) : Int :=
  let digits := amount.places ++ List.replicate (count - amount.places.length) '0'
  let value : Int := amount.whole * Int.pow 10 count + Text.digitsValue digits
  if amount.isNegative then -value else value

/-- Compare two amounts. -/
def Amount.order (left right : Amount) : Ordering :=
  let count := max left.places.length right.places.length
  compare (left.scaled count) (right.scaled count)

/-- The rank of the letter behind a human amount. -/
def unitRank (amount : Amount) (text : ByteText) : Int :=
  let letters := "KMGTPEZYRQ".toList
  let rank : Nat := match text with
    | 'k' :: _ => 1
    | letter :: _ => (letters.idxOf? letter).map (· + 1) |>.getD 0
    | [] => 0
  let isZero := amount.whole = 0 && amount.places.all (· = '0')
  if isZero then 0 else if amount.isNegative then -(rank : Int) else rank

/-- The parts of a version: by turns what is no digit and what is one. -/
def versionParts : Nat → ByteText → List (ByteText × Nat)
  | 0, _ => []
  | limit + 1, text =>
    if text.isEmpty then []
    else
      let letters := text.takeWhile fun character => !character.isDigit
      let rest := text.drop letters.length
      let digits := rest.takeWhile Char.isDigit
      (letters, Text.digitsValue digits) :: versionParts limit (rest.drop digits.length)

/-- The rank of a character in a version: a tilde stands before everything, letters before the rest. -/
def versionRank (character : Char) : Nat :=
  if character = '~' then 0
  else if character.isAlpha then character.toNat + 2 else character.toNat + 300

/-- Compare two versions. -/
def compareVersions (left right : ByteText) : Ordering :=
  let ranks (text : ByteText) : List Nat := text.map versionRank ++ [1]
  let key (text : ByteText) : List (List Nat × Nat) :=
    (versionParts (text.length + 1) text).map fun part => (ranks part.1, part.2)
  let rec compareKeys : List (List Nat × Nat) → List (List Nat × Nat) → Ordering
    | [], [] => .eq
    | [], _ => .lt
    | _, [] => .gt
    | first :: others, second :: rest =>
      match compare first.1 second.1 with
      | .eq =>
        match compare first.2 second.2 with
        | .eq => compareKeys others rest
        | different => different
      | different => different
  compareKeys (key left) (key right)

/-- The months in the order of the year. -/
def monthNames : List String :=
  ["JAN", "FEB", "MAR", "APR", "MAY", "JUN", "JUL", "AUG", "SEP", "OCT", "NOV", "DEC"]

/-- The place of a month in the year. -/
def monthRank (text : ByteText) : Nat :=
  let name := (text.dropWhile ByteText.isBlank).take 3 |>.map Char.toUpper
  ((monthNames.map String.toList).idxOf? name).map (· + 1) |>.getD 0

/-- The rank of a text by the number that it writes: what is no number comes first. -/
def generalRank (text : ByteText) : Option Float :=
  (Floating.read (text.dropWhile ByteText.isSpace)).map Prod.fst

/-- Compare two texts by their numbers, what is no number first. -/
def compareGeneral (left right : ByteText) : Ordering :=
  match generalRank left, generalRank right with
  | none, none => .eq
  | none, some _ => .lt
  | some _, none => .gt
  | some first, some second => if first < second then .lt else if second < first then .gt else .eq

/-- A text as it counts in a comparison. -/
def Comparing.seen (comparing : Comparing) (text : ByteText) : ByteText :=
  let kept := text.filter fun character =>
    (!comparing.isDictionary || character.isAlphanum || ByteText.isBlank character) &&
      (!comparing.isPrintableOnly || isPrintable character)
  if comparing.ignoresCase then kept.map Char.toUpper else kept

/-- Compare two texts. -/
def Comparing.order (comparing : Comparing) (left right : ByteText) : Ordering :=
  let found :=
    if comparing.isNumeric then (amountOf left).1.order (amountOf right).1
    else if comparing.isGeneral then compareGeneral left right
    else if comparing.isHuman then
      let (first, firstRest) := amountOf left
      let (second, secondRest) := amountOf right
      (compare (unitRank first firstRest) (unitRank second secondRest)).then (first.order second)
    else if comparing.isMonth then compare (monthRank left) (monthRank right)
    else if comparing.isVersion then
      compareVersions (comparing.seen left) (comparing.seen right)
    else compare (comparing.seen left) (comparing.seen right)
  if comparing.isReversed then found.swap else found

/-! ### Keys -/

/-- Where a key begins or ends: the field, the character in it, and whether blanks before it are
passed over. -/
structure KeyPlace where
  field : Nat
  character : Nat
  skipsBlanks : Bool

/-- A part of a line by which lines are ordered. -/
structure Key where
  first : KeyPlace
  last : Option KeyPlace
  comparing : Comparing
  isOwn : Bool

/-- Where the fields of a line begin and end. Without a separator a field begins with the blanks
before it. -/
def fieldBounds (separator : Option Char) : Nat → Nat → ByteText → List (Nat × Nat)
  | 0, _, _ => []
  | limit + 1, start, text =>
    match separator with
    | some mark =>
      let field := text.takeWhile (· ≠ mark)
      match text.drop field.length with
      | [] => [(start, start + field.length)]
      | _ :: rest =>
        (start, start + field.length) ::
          fieldBounds separator limit (start + field.length + 1) rest
    | none =>
      if text.isEmpty then []
      else
        let blanks := text.takeWhile ByteText.isBlank
        let word := (text.drop blanks.length).takeWhile fun character =>
          !ByteText.isBlank character
        let length := blanks.length + word.length
        (start, start + length) :: fieldBounds separator limit (start + length) (text.drop length)

/-- The part of a line that a key means. -/
def Key.part (key : Key) (separator : Option Char) (line : ByteText) : ByteText :=
  let bounds := fieldBounds separator (line.length + 1) 0 line
  let skip (isSkipping : Bool) (position : Nat) : Nat :=
    if isSkipping then position + ((line.drop position).takeWhile ByteText.isBlank).length
    else position
  let start := match bounds[key.first.field - 1]? with
    | some (position, _) =>
      min line.length (skip key.first.skipsBlanks position + (key.first.character - 1))
    | none => line.length
  let finish := match key.last with
    | none => line.length
    | some place =>
      match bounds[place.field - 1]? with
      | some (position, after) =>
        if place.character = 0 then after
        else min line.length (skip place.skipsBlanks position + place.character)
      | none => line.length
  (line.drop start).take (finish - start)

/-- Complain about a key, and end. -/
def refuseKey {α : Type} (call : Call) (reason : String) (text : ByteText) : Job α :=
  fail call 2 (ByteText.ofString (reason ++ ": invalid count at start of ") ++ literal text)

/-- The letters behind a place of a key. -/
def readKeyLetters (call : Call) (whole : ByteText) : Comparing → ByteText →
    Job (Comparing × ByteText)
  | comparing, [] => pure (comparing, [])
  | comparing, letter :: rest =>
    if letter = ',' then pure (comparing, letter :: rest)
    else
      match comparing.with letter with
      | some changed => readKeyLetters call whole changed rest
      | none =>
        fail call 2 ("stray character in field spec: invalid field specification ".toList ++
          literal whole)

/-- A place of a key: its numbers and what is behind them. -/
def readKeyPlace (call : Call) (whole text : ByteText) (isFirst : Bool) :
    Job (Nat × Nat × ByteText) := do
  let digits := text.takeWhile Char.isDigit
  if digits.isEmpty then
    refuseKey call (if isFirst then "invalid number at field start" else "invalid number after ','")
      text
  let field := Text.digitsValue digits
  if field = 0 then
    fail call 2 ("field number is zero: invalid field specification ".toList ++ literal whole)
  match text.drop digits.length with
  | '.' :: rest =>
    let places := rest.takeWhile Char.isDigit
    if places.isEmpty then refuseKey call "invalid number after '.'" rest
    let character := Text.digitsValue places
    if isFirst && character = 0 then
      fail call 2 ("character offset is zero: invalid field specification ".toList ++ literal whole)
    pure (field, character, rest.drop places.length)
  | rest => pure (field, if isFirst then 1 else 0, rest)

/-- Read a key. -/
def readKey (call : Call) (text : ByteText) : Job Key := do
  let (field, character, rest) ← readKeyPlace call text text true
  let (comparing, after) ← readKeyLetters call text .plain rest
  let first (skipsBlanks : Bool) : KeyPlace := ⟨field, character, skipsBlanks⟩
  match after with
  | ',' :: second =>
    let (field, character, rest) ← readKeyPlace call text second false
    let (all, _) ← readKeyLetters call text { comparing with ignoresBlanks := false } rest
    let isOwn := !(rest.isEmpty && after.length = text.length)
    pure ⟨first comparing.ignoresBlanks, some ⟨field, character, all.ignoresBlanks⟩,
      { all with ignoresBlanks := false }, isOwn && (rest.any Char.isAlpha ||
        text.any Char.isAlpha)⟩
  | _ =>
    pure ⟨first comparing.ignoresBlanks, none, { comparing with ignoresBlanks := false },
      text.any Char.isAlpha⟩

/-! ### Sorting -/

/-- The options of `sort`. -/
def sortOptions : OptionSet where
  letters := "bcCdfghik:mMno:rRsS:t:T:uVz"
  names := [("ignore-leading-blanks", .nothing, 'b'), ("check", .optional, 'c'),
    ("dictionary-order", .nothing, 'd'), ("ignore-case", .nothing, 'f'),
    ("general-numeric-sort", .nothing, 'g'), ("human-numeric-sort", .nothing, 'h'),
    ("ignore-nonprinting", .nothing, 'i'), ("key", .required, 'k'), ("merge", .nothing, 'm'),
    ("month-sort", .nothing, 'M'), ("numeric-sort", .nothing, 'n'), ("output", .required, 'o'),
    ("reverse", .nothing, 'r'), ("random-sort", .nothing, 'R'), ("stable", .nothing, 's'),
    ("buffer-size", .required, 'S'), ("field-separator", .required, 't'),
    ("unique", .nothing, 'u'), ("version-sort", .nothing, 'V'), ("zero-terminated", .nothing, 'z'),
    ("parallel", .required, '!')]

/-- The order of two lines by some keys. -/
def orderByKeys (keys : List Key) (separator : Option Char) (left right : ByteText) : Ordering :=
  keys.foldl (fun found key =>
    found.then (key.comparing.order (key.part separator left) (key.part separator right))) .eq

/-- The lines of a text, without a last one that is empty. -/
def recordsOf (lineEnd : Char) (text : ByteText) : List ByteText :=
  let pieces := Text.split lineEnd text
  if pieces.getLast? = some [] then pieces.dropLast else pieces

/-- The lines among which no two that follow each other are the same. -/
def withoutRepeats (areSame : ByteText → ByteText → Bool) : List ByteText → List ByteText
  | [] => []
  | [line] => [line]
  | first :: second :: rest =>
    if areSame first second then
      match withoutRepeats areSame (second :: rest) with
      | [] => [first]
      | _ :: others => first :: others
    else first :: withoutRepeats areSame (second :: rest)

/-- The first line that is out of order, and its number. -/
def disorder? (isBehind : ByteText → ByteText → Bool) : Nat → List ByteText →
    Option (Nat × ByteText)
  | number, first :: second :: rest =>
    if isBehind first second then some (number + 1, second)
    else disorder? isBehind (number + 1) (second :: rest)
  | _, _ => none

/-- The separator of fields that a text asks for. -/
def readSeparator (call : Call) : Option ByteText → Job (Option Char)
  | none => pure none
  | some [character] => pure (some character)
  | some [] => fail call 2 "empty tab".toList
  | some text =>
    if text = ['\\', '0'] then pure (some '\x00')
    else fail call 2 ("multi-character tab ".toList ++ literal text)

/-- Write a text to a file. -/
def writeFile (call : Call) (status : Nat) (path text : ByteText) : Job Unit := do
  match ← Job.openPath path (.replacing false) with
  | .error error => fail call status (fault ("open failed: ".toList ++ shown path) error)
  | .ok index =>
    match (← get).machine.files[index]? with
    | some file =>
      let _ ← Job.writeTo index file text
    | none => pure ()

/-- Order the lines of the inputs. -/
def sort : Utility := fun call => do
  let (chosen, operands) ← readOptions call 2 sortOptions
  let ownKeys ← (chosen.values 'k').mapM (readKey call)
  let separator ← readSeparator call (chosen.value? 't')
  let global := chosen.foldl (fun comparing option => (comparing.with option.1).getD comparing)
    Comparing.plain
  let kinds := "ghMnVR".toList.filter fun letter => chosen.has letter
  if 1 < kinds.length then
    fail call 2 ("options '-".toList ++ kinds ++ "' are incompatible".toList)
  let inherit (key : Key) : Key :=
    if key.isOwn then key
    else { key with
      first := { key.first with skipsBlanks := global.ignoresBlanks }
      last := key.last.map fun place => { place with skipsBlanks := global.ignoresBlanks }
      comparing := global }
  let keys := if ownKeys.isEmpty then
      [⟨⟨1, 1, global.ignoresBlanks⟩, none, global, true⟩]
    else ownKeys.map inherit
  let isLastResort := !chosen.has 's' && !chosen.has 'u'
  let order (left right : ByteText) : Ordering :=
    let found := orderByKeys keys separator left right
    if isLastResort then
      found.then (if global.isReversed then compare right left else compare left right)
    else found
  let areSame (left right : ByteText) : Bool := orderByKeys keys separator left right = .eq
  let lineEnd := if chosen.has 'z' then '\x00' else '\n'
  let inputs := inputsOf operands
  let texts ← inputs.mapM fun operand => do
    match ← readInput operand with
    | .ok text => pure text
    | .error error =>
      if error = .isDirectory then fail call 2 (fault ("read failed: ".toList ++ shown operand) error)
      else fail call 2 (fault ("cannot read: ".toList ++ shown operand) error)
  let lines := texts.flatMap (recordsOf lineEnd)
  if chosen.has 'c' || chosen.has 'C' then
    let isBehind (left right : ByteText) : Bool :=
      if chosen.has 'u' then order left right ≠ .lt else order left right = .gt
    match disorder? isBehind 1 lines with
    | none => pure 0
    | some (number, line) =>
      if !chosen.has 'C' then
        complain call ((inputs.head?.getD []) ++ ':' :: ByteText.ofNat number ++
          ": disorder: ".toList ++ line)
      pure 1
  else
    let sorted := lines.mergeSort fun left right => order left right ≠ .gt
    let result := if chosen.has 'u' then withoutRepeats areSame sorted else sorted
    let text := result.flatMap fun line => line ++ [lineEnd]
    match chosen.value? 'o' with
    | some path => writeFile call 2 path text
    | none => emit call text
    pure 0

/-! ### Lines in order -/

/-- The options of `uniq`. -/
def uniqOptions : OptionSet where
  letters := "cdDf:is:uw:z"
  names := [("count", .nothing, 'c'), ("repeated", .nothing, 'd'), ("all-repeated", .optional, 'D'),
    ("skip-fields", .required, 'f'), ("ignore-case", .nothing, 'i'),
    ("skip-chars", .required, 's'), ("unique", .nothing, 'u'), ("check-chars", .required, 'w'),
    ("zero-terminated", .nothing, 'z')]

/-- A line without its first fields. -/
def skipFields : Nat → ByteText → ByteText
  | 0, line => line
  | count + 1, line =>
    skipFields count ((line.dropWhile ByteText.isBlank).dropWhile fun character =>
      !ByteText.isBlank character)

/-- Lines in groups of those that are the same and follow each other. -/
def groupLines (key : ByteText → ByteText) : List ByteText → List (List ByteText)
  | [] => []
  | line :: rest =>
    match groupLines key rest with
    | (next :: others) :: groups =>
      if key line = key next then (line :: next :: others) :: groups
      else [line] :: (next :: others) :: groups
    | groups => [line] :: groups

/-- Leave out lines that repeat the one before. -/
def uniq : Utility := fun call => do
  let (chosen, operands) ← readOptions call 1 uniqOptions
  if let some extra := operands[2]? then refuseOperand call extra
  let number (letter : Char) (title : String) : Job (Option Nat) := do
    match chosen.value? letter with
    | none => pure none
    | some text =>
      match Text.readDigits text with
      | some number => pure (some number)
      | none =>
        fail call 1 (text ++ ByteText.ofString (": invalid number of " ++ title))
  let fields ← number 'f' "fields to skip"
  let skipped ← number 's' "bytes to skip"
  let width ← number 'w' "bytes to compare"
  let key (line : ByteText) : ByteText :=
    let rest := (skipFields (fields.getD 0) line).drop (skipped.getD 0)
    let part := match width with
      | some width => rest.take width
      | none => rest
    if chosen.has 'i' then part.map Char.toUpper else part
  let lineEnd := if chosen.has 'z' then '\x00' else '\n'
  let input := operands.head?.getD ['-']
  match ← readInput input with
  | .error error => fail call 1 (fault (shown input) error)
  | .ok text =>
    let groups := groupLines key (recordsOf lineEnd text)
    let kept := groups.filter fun group =>
      let isRepeated := 1 < group.length
      !((chosen.has 'd' || chosen.has 'D') && !isRepeated) && !(chosen.has 'u' && isRepeated)
    let shownLines := kept.flatMap fun group =>
      let first := group.head?.getD []
      if chosen.has 'D' then group
      else if chosen.has 'c' then
        [ByteText.padLeft ' ' 7 (ByteText.ofNat group.length) ++ ' ' :: first]
      else [first]
    let output := shownLines.flatMap fun line => line ++ [lineEnd]
    match operands[1]? with
    | some path => writeFile call 1 path output
    | none => emit call output
    pure 0

/-- The options of `comm`. -/
def commOptions : OptionSet where
  letters := "123z"
  names := [("check-order", .nothing, 'K'), ("nocheck-order", .nothing, 'N'),
    ("output-delimiter", .required, 'O'), ("total", .nothing, 'T')]

/-- Two rows of lines side by side: each line with the column that it belongs to. -/
def mergeLines : Nat → List ByteText → List ByteText → List (Nat × ByteText)
  | 0, _, _ => []
  | _, [], right => right.map fun line => (2, line)
  | _, left, [] => left.map fun line => (1, line)
  | limit + 1, first :: left, second :: right =>
    match compare first second with
    | .lt => (1, first) :: mergeLines limit left (second :: right)
    | .gt => (2, second) :: mergeLines limit (first :: left) right
    | .eq => (3, first) :: mergeLines limit left right

/-- Tell which lines two inputs have in common. -/
def comm : Utility := fun call => do
  let (chosen, operands) ← readOptions call 1 commOptions
  match operands with
  | [left, right] =>
    let read (operand : ByteText) : Job (List ByteText) := do
      match ← readInput operand with
      | .ok text => pure (recordsOf '\n' text)
      | .error error => fail call 1 (fault (shown operand) error)
    let first ← read left
    let second ← read right
    let columns := [1, 2, 3].filter fun column =>
      !chosen.has (Char.ofNat (48 + column))
    let delimiter := (chosen.value? 'O').getD ['\t']
    let merged := mergeLines (first.length + second.length + 1) first second
    emitLines call (merged.filterMap fun (column, line) =>
      if columns.contains column then
        some ((List.replicate ((columns.filter (· < column)).length) delimiter).flatten ++ line)
      else none)
    let isSorted (lines : List ByteText) : Bool :=
      (disorder? (fun before after => compare before after = .gt) 1 lines).isNone
    if chosen.has 'N' || (isSorted first && isSorted second) then pure 0
    else
      if !isSorted first then complain call "file 1 is not in sorted order".toList
      if !isSorted second then complain call "file 2 is not in sorted order".toList
      fail call 1 "input is not in sorted order".toList
  | _ :: _ :: extra :: _ => refuseOperand call extra
  | _ => missOperand call operands

end CodeNavigator.Utility
