/-
This file defines the programs that choose parts of lines and that put characters in the place of
others.
-/

import CodeNavigator.Text.CharacterSet
import CodeNavigator.Utility.Basic

namespace CodeNavigator.Utility

/-! ### Parts of lines -/

/-- A row of positions that follow each other. Without an end it goes on. -/
structure Stretch where
  first : Nat
  last : Option Nat

/-- Whether a position is in one of some stretches. -/
def covers (stretches : List Stretch) (position : Nat) : Bool :=
  stretches.any fun stretch =>
    stretch.first ≤ position && (stretch.last.map fun last => decide (position ≤ last)).getD true

/-- The names of what is counted. -/
def unitName (isField : Bool) : String :=
  if isField then "field value" else "byte/character position"

/-- Complain about a position that is zero, and end. -/
def refuseZero {α : Type} (call : Call) (isField : Bool) : Job α :=
  misuse call 1
    (if isField then "fields are numbered from 1"
      else "byte/character positions are numbered from 1").toList

/-- Read one position. -/
def readPosition (call : Call) (isField : Bool) (text : ByteText) : Job Nat :=
  match Text.readDigits text with
  | some 0 => refuseZero call isField
  | some number => pure number
  | none =>
    misuse call 1 (ByteText.ofString ("invalid " ++ unitName isField ++ " ") ++ literal text)

/-- Read one stretch of positions. -/
def readStretch (call : Call) (isField : Bool) (text : ByteText) : Job Stretch := do
  if text.isEmpty then refuseZero call isField
  else if text = ['-'] then misuse call 1 "invalid range with no endpoint: -".toList
  else if text.contains '-' then
    let low := text.takeWhile (· ≠ '-')
    let high := text.drop (low.length + 1)
    let first ← if low.isEmpty then pure 1 else readPosition call isField low
    if high.isEmpty then pure ⟨first, none⟩
    else
      let last ← readPosition call isField high
      if last < first then misuse call 1 "invalid decreasing range".toList
      pure ⟨first, some last⟩
  else
    let position ← readPosition call isField text
    pure ⟨position, some position⟩

/-- Read a list of stretches. -/
def readStretches (call : Call) (isField : Bool) (text : ByteText) : Job (List Stretch) :=
  (Text.split ',' (text.map fun character => if ByteText.isBlank character then ',' else character)).mapM
    (readStretch call isField)

/-- The options of `cut`. -/
def cutOptions : OptionSet where
  letters := "b:c:d:f:nsz"
  names := [("bytes", .required, 'b'), ("characters", .required, 'c'), ("delimiter", .required, 'd'),
    ("fields", .required, 'f'), ("only-delimited", .nothing, 's'), ("complement", .nothing, '!'),
    ("output-delimiter", .required, 'O'), ("zero-terminated", .nothing, 'z')]

/-- The parts of a row at some positions. -/
def choose {α : Type} (isChosen : Nat → Bool) (row : List α) : List α :=
  ((row.mapIdx fun index part => (index + 1, part)).filter fun entry => isChosen entry.1).map Prod.snd

/-- The characters of a line at some positions, with a delimiter between those that are apart. -/
def chooseCharacters (isChosen : Nat → Bool) (delimiter : ByteText) (line : ByteText) : ByteText :=
  let chosen := (line.mapIdx fun index character => (index + 1, character)).filter fun entry =>
    isChosen entry.1
  (chosen.foldl (fun (text, last) (position, character) =>
    let isApart := last ≠ 0 && last + 1 < position
    (text ++ (if isApart then delimiter else []) ++ [character], position))
    (([] : ByteText), 0)).1

/-- Hand on parts of the lines. -/
def cut : Utility := fun call => do
  let (chosen, operands) ← readOptions call 1 cutOptions
  let lists := chosen.filter fun option => ['b', 'c', 'f'].contains option.1
  match lists with
  | [] => misuse call 1 "you must specify a list of bytes, characters, or fields".toList
  | _ :: _ :: _ => misuse call 1 "only one list may be specified".toList
  | [(letter, list)] =>
    let isField := letter = 'f'
    let delimiter ← match chosen.value? 'd' with
      | none => pure '\t'
      | some [] => pure '\x00'
      | some [character] => pure character
      | some _ => misuse call 1 "the delimiter must be a single character".toList
    let stretches ← readStretches call isField list
    if !isField && chosen.has 'd' then
      misuse call 1 "an input delimiter may be specified only when operating on fields".toList
    if !isField && chosen.has 's' then
      misuse call 1
        ("suppressing non-delimited lines makes sense\n\tonly when operating on fields").toList
    let isChosen (position : Nat) : Bool := covers stretches position != chosen.has '!'
    let output := chosen.value? 'O'
    let lineEnd := if chosen.has 'z' then '\x00' else '\n'
    let cutLine (line : ByteText) : Option ByteText :=
      if isField then
        if !line.contains delimiter then if chosen.has 's' then none else some line
        else
          let kept := choose isChosen (Text.split delimiter line)
          some ((output.getD [delimiter]).intercalate kept)
      else
        some (chooseCharacters isChosen (output.getD []) line)
    filterInputs call operands fun text =>
      let pieces := Text.split lineEnd text
      let lines := if pieces.getLast? = some [] then pieces.dropLast else pieces
      (lines.filterMap cutLine).flatMap fun line => line ++ [lineEnd]

/-! ### Characters -/

/-- A part of a set of characters: characters in a row, or one that is repeated to some length. -/
inductive Share
  | row (characters : List Char) (name : Option String)
  | repeated (character : Char) (count : Option Nat)

/-- The character that an escape stands for, and what is behind it. -/
def readEscape : ByteText → Char × ByteText
  | [] => ('\\', [])
  | character :: rest =>
    if '0' ≤ character && character ≤ '7' then
      let digits := ((character :: rest).take 3).takeWhile fun digit => '0' ≤ digit && digit ≤ '7'
      let number := digits.foldl (fun value digit => 8 * value + (digit.toNat - 48)) 0
      if number < 256 then (Char.ofNat number, (character :: rest).drop digits.length)
      else (Char.ofNat (number / 8), (character :: rest).drop 2)
    else
      let known : List (Char × Char) := [('a', '\x07'), ('b', '\x08'), ('f', '\x0c'), ('n', '\n'),
        ('r', '\r'), ('t', '\t'), ('v', '\x0b')]
      (((known.find? fun entry => entry.1 = character).map Prod.snd).getD character, rest)

/-- A text with its escapes read. What was escaped is marked. -/
def unescaped : Nat → ByteText → MarkedText
  | 0, _ => []
  | limit + 1, text =>
    match text with
    | '\\' :: rest =>
      let (character, after) := readEscape rest
      (true, character) :: unescaped limit after
    | character :: rest => (false, character) :: unescaped limit rest
    | [] => []

/-- The text of marked characters up to two given ones, and what is behind them. -/
def untilPair (first second : Char) : MarkedText → Option (MarkedText × MarkedText)
  | [] => none
  | [_] => none
  | one :: two :: rest =>
    if one.2 = first && two = (false, second) && !one.1 then some ([], rest)
    else (untilPair first second (two :: rest)).map fun (before, after) => (one :: before, after)

/-- The characters between two. -/
def between (low high : Char) : List Char :=
  (List.range (high.toNat + 1 - low.toNat)).map fun offset => Char.ofNat (low.toNat + offset)

/-- The characters of a class, in order. -/
def classMembers (ranges : List (Char × Char)) : List Char :=
  (between '\x00' (Char.ofNat 255)).filter fun character =>
    ranges.any fun range => range.1 ≤ character && character ≤ range.2

/-- Read a set of characters. -/
def readShares (call : Call) : Nat → MarkedText → Job (List Share)
  | 0, _ => pure []
  | limit + 1, text =>
    let plain : MarkedText → Job (List Share)
      | (_, low) :: (false, '-') :: (_, high) :: rest => do
        if high < low then
          fail call 1 ("range-endpoints of '".toList ++ [low, '-', high] ++
            "' are in reverse collating sequence order".toList)
        pure (.row (between low high) none :: (← readShares call limit rest))
      | (_, character) :: rest => do
        pure (.row [character] none :: (← readShares call limit rest))
      | [] => pure []
    match text with
    | (false, '[') :: (false, ':') :: rest =>
      match untilPair ':' ']' rest with
      | some (name, after) =>
        match CharacterSet.class? (MarkedText.bare name) with
        | some ranges => do
          let title := String.ofList (MarkedText.bare name)
          pure (.row (classMembers ranges) (some title) :: (← readShares call limit after))
        | none =>
          fail call 1 ("invalid character class ".toList ++ literal (MarkedText.bare name))
      | none => plain text
    | (false, '[') :: (false, '=') :: rest =>
      match untilPair '=' ']' rest with
      | some ([single], after) => do
        pure (.row [single.2] none :: (← readShares call limit after))
      | _ => plain text
    | (false, '[') :: (_, character) :: (false, '*') :: rest =>
      let digits := (MarkedText.bare rest).takeWhile Char.isDigit
      match rest.drop digits.length with
      | (false, ']') :: after => do
        let base : Nat := if digits.head? = some '0' then 8 else 10
        let number : Nat := digits.foldl (fun value digit => base * value + (digit.toNat - 48)) 0
        let count := if number = 0 then none else some number
        pure (.repeated character count :: (← readShares call limit after))
      | _ => plain text
    | _ => plain text

/-- The length of a share without repetitions to any length. -/
def Share.length : Share → Nat
  | .row characters _ => characters.length
  | .repeated _ count => count.getD 0

/-- The characters of a set, filled up to a length where that is asked for. -/
def membersOf (length : Nat) (shares : List Share) : List Char :=
  let fixed := shares.foldl (fun sum share => sum + share.length) 0
  shares.flatMap fun
    | .row characters _ => characters
    | .repeated character count => List.replicate (count.getD (length - fixed)) character

/-- The options of `tr`. -/
def trOptions : OptionSet where
  letters := "cCdst"
  names := [("complement", .nothing, 'c'), ("delete", .nothing, 'd'),
    ("squeeze-repeats", .nothing, 's'), ("truncate-set1", .nothing, 't')]

/-- A text with each row of the same character of a set made one character. -/
def squeeze (isSqueezed : Char → Bool) : Option Char → ByteText → ByteText
  | _, [] => []
  | last, character :: rest =>
    if last = some character && isSqueezed character then squeeze isSqueezed last rest
    else character :: squeeze isSqueezed (some character) rest

/-- A set of characters as a table. -/
def tableOf (members : List Char) : Array Bool :=
  members.foldl (fun table character => table.set! character.toNat true) (Array.replicate 256 false)

/-- Which character takes the place of each, where the last one of the second set goes on. -/
def translation (first second : List Char) : Array Char :=
  let filler := second.getLast?.getD '\x00'
  let targets := second ++ List.replicate (first.length - second.length) filler
  (first.zip targets).foldl (fun table (character, target) => table.set! character.toNat target)
    ((between '\x00' (Char.ofNat 255)).toArray)

/-- The classes that are turned into each other by case. -/
def hasBadClass (first second : List Share) : Bool :=
  second.any fun
    | .row _ (some name) =>
      !(["upper", "lower"].contains name && first.any fun
        | .row _ (some _) => true
        | _ => false)
    | _ => false

/-- Complain about a number of operands, with a remark. -/
def refuseOperands {α : Type} (call : Call) (operands : List ByteText) (isExtra : Bool)
    (remark : Option String) : Job α := do
  let message := match isExtra, operands.getLast? with
    | true, some last => "extra operand ".toList ++ literal last
    | false, some last => "missing operand after ".toList ++ literal last
    | _, none => "missing operand".toList
  complain call message
  match remark with
  | some text => Job.put 2 (ByteText.ofString (text ++ "\n"))
  | none => pure ()
  Job.put 2 ("Try '".toList ++ call.name ++ " --help' for more information.\n".toList)
  throw (.exited 1)

/-- Put characters in the place of others, leave them out, or make rows of them one. -/
def tr : Utility := fun call => do
  let (chosen, operands) ← readLeadingOptions call 1 trOptions
  let deletes := chosen.has 'd'
  let squeezes := chosen.has 's'
  let isNegated := chosen.has 'c' || chosen.has 'C'
  let least := if deletes = squeezes then 2 else 1
  let most := if deletes && !squeezes then 1 else 2
  if operands.length < least then
    refuseOperands call operands false
      (if operands.isEmpty then none
        else if deletes && squeezes then
          some "Two strings must be given when both deleting and squeezing repeats."
        else some "Two strings must be given when translating.")
  if most < operands.length then
    refuseOperands call (operands.take (most + 1)) true
      (if deletes && operands.length = 2 then
        some "Only one string may be given when deleting without squeezing repeats." else none)
  let read (operand : ByteText) : Job (List Share) :=
    readShares call (operand.length + 1) (unescaped (operand.length + 1) operand)
  let firstShares ← read (operands.head?.getD [])
  let secondShares ← read ((operands.drop 1).head?.getD [])
  let plainFirst := membersOf 0 firstShares
  let first := if isNegated then
      (between '\x00' (Char.ofNat 255)).filter fun character => !plainFirst.contains character
    else plainFirst
  let second := membersOf first.length secondShares
  let translates := !deletes && 1 < operands.length
  if translates && second.isEmpty && !chosen.has 't' then
    fail call 1 "when not truncating set1, string2 must be non-empty".toList
  if translates && hasBadClass firstShares secondShares then
    fail call 1 ("when translating, the only character classes that may appear in\n" ++
      "string2 are 'upper' and 'lower'").toList
  let inFirst := tableOf first
  let inSecond := tableOf second
  let isIn (table : Array Bool) (character : Char) : Bool := table.getD character.toNat false
  match ← Job.readAll 0 with
  | .error error => fail call 1 (fault "read error".toList error)
  | .ok text =>
    let table := translation (if chosen.has 't' then first.take second.length else first) second
    let changed :=
      if deletes then text.filter fun character => !isIn inFirst character
      else if translates then text.map fun character => table.getD character.toNat character
      else text
    let isSqueezed : Char → Bool := if deletes || translates then isIn inSecond else isIn inFirst
    emit call (if squeezes then squeeze isSqueezed none changed else changed)
    pure 0

end CodeNavigator.Utility
