/-
This file defines regular expressions and finds what they match in a text. An expression is read in
one of two styles, in which either the bare or the escaped form of a bracket or an operator has a
meaning. Of all ways to match, the leftmost one counts, and of these the longest; among equally long
ones the earlier parts take as much as they can.
-/

import CodeNavigator.Text.CharacterSet
import CodeNavigator.Text.Decimal

namespace CodeNavigator

/-- An expression that matches parts of a text, or places in it. -/
inductive RegularExpression
  | empty
  | one (set : CharacterSet)
  | lineStart
  | lineEnd
  | wordStart
  | wordFinish
  | wordEdge (isThere : Bool)
  | group (number : Nat) (body : RegularExpression)
  | reference (number : Nat)
  | sequence (first second : RegularExpression)
  | choice (first second : RegularExpression)
  | repeated (low : Nat) (high : Option Nat) (body : RegularExpression)

namespace RegularExpression

/-! ### Matching -/

/-- A place in a text that has been matched up to there: what follows it, the character before it,
its position, and the ends of the groups, the latest first. -/
structure Place where
  rest : ByteText
  before : Option Char
  position : Nat
  groups : List (Nat × Nat × Nat)

/-- The places that can be reached from a place, the preferred ones first. -/
abbrev Matcher := Place → List Place

/-- The place behind the next character, if the character is of some kind. -/
def Place.step (isTaken : Char → Bool) (place : Place) : List Place :=
  match place.rest with
  | character :: rest =>
    if isTaken character then
      [{ place with rest := rest, before := some character, position := place.position + 1 }]
    else []
  | [] => []

/-- The place so many characters further on. -/
def Place.skip (count : Nat) (place : Place) : Place :=
  { place with
    rest := place.rest.drop count
    before := if count = 0 then place.before else (place.rest.take count).getLast?
    position := place.position + count }

/-- Places without those that were there before. -/
def distinct (places : List Place) : List Place :=
  (places.foldl (fun kept place =>
    if kept.any fun other => other.position = place.position && other.groups = place.groups then kept
    else place :: kept) []).reverse

/-- Repeat a match as often as possible, and between two bounds. -/
def repeatMatcher (body : Matcher) (low : Nat) (high : Option Nat) : Nat → Nat → Matcher
  | 0, _, place => [place]
  | limit + 1, count, place =>
    let mayGoOn := match high with
      | some high => decide (count < high)
      | none => true
    let further := if mayGoOn then
        ((body place).filter fun next => count < low || place.position < next.position).flatMap
          (repeatMatcher body low high limit (count + 1))
      else []
    further ++ if low ≤ count then [place] else []

/-- Whether a character may stand in a word. -/
def isWordCharacter (character : Char) : Bool :=
  character.isAlphanum || character = '_'

/-- Whether words lie before and behind a place. -/
def Place.isInWord (place : Place) : Bool × Bool :=
  (place.before.any isWordCharacter, place.rest.head?.any isWordCharacter)

/-- How letters are compared, and what the groups of a match are taken from. -/
structure Setting where
  ignoresCase : Bool
  subject : ByteText

/-- Whether a set admits a character, or its other form where case is ignored. -/
def Setting.admits (setting : Setting) (set : CharacterSet) (character : Char) : Bool :=
  if setting.ignoresCase then
    if set.isNegated then set.admits character.toLower && set.admits character.toUpper
    else set.admits character.toLower || set.admits character.toUpper
  else set.admits character

/-- The text of a group. -/
def groupText (subject : ByteText) (groups : List (Nat × Nat × Nat)) (number : Nat) :
    Option ByteText :=
  (groups.find? fun group => group.1 = number).map fun (_, start, finish) =>
    (subject.drop start).take (finish - start)

/-- The places that can be reached by matching an expression. -/
def matcher (setting : Setting) : RegularExpression → Matcher
  | .empty, place => [place]
  | .one set, place => place.step (setting.admits set)
  | .lineStart, place => if place.position = 0 then [place] else []
  | .lineEnd, place => if place.rest.isEmpty then [place] else []
  | .wordStart, place => if place.isInWord = (false, true) then [place] else []
  | .wordFinish, place => if place.isInWord = (true, false) then [place] else []
  | .wordEdge isThere, place =>
    if (place.isInWord.1 != place.isInWord.2) = isThere then [place] else []
  | .group number body, place =>
    (matcher setting body place).map fun next =>
      { next with groups := (number, place.position, next.position) :: next.groups }
  | .reference number, place =>
    match groupText setting.subject place.groups number with
    | some text =>
      let found := place.rest.take text.length
      let fold (text : ByteText) := if setting.ignoresCase then text.map Char.toLower else text
      if fold found = fold text then [place.skip text.length] else []
    | none => []
  | .sequence first second, place =>
    distinct ((matcher setting first place).flatMap (matcher setting second))
  | .choice first second, place => matcher setting first place ++ matcher setting second place
  | .repeated low high body, place =>
    repeatMatcher (matcher setting body) low high (place.rest.length + low + 1) 0 place

/-- Where a match begins and ends, and its groups. -/
structure Match where
  start : Nat
  finish : Nat
  groups : List (Nat × Nat × Nat)

/-- The text of a group of a match. The whole match counts as group zero. -/
def Match.text (found : Match) (subject : ByteText) (number : Nat) : ByteText :=
  if number = 0 then (subject.drop found.start).take (found.finish - found.start)
  else (groupText subject found.groups number).getD []

/-- The longest match that begins at a place. -/
def longestAt (run : Matcher) (place : Place) : Option Match :=
  ((run place).foldl (fun best next =>
    match best with
    | some (found : Place) => if found.position < next.position then some next else some found
    | none => some next) none).map fun next => ⟨place.position, next.position, next.groups⟩

/-- The first match from a place on. -/
def searchFrom (run : Matcher) : Nat → Place → Option Match
  | 0, _ => none
  | limit + 1, place =>
    match longestAt run place with
    | some found => some found
    | none => if place.rest.isEmpty then none else searchFrom run limit (place.skip 1)

/-- The first match in a text from a position on. -/
def search (expression : RegularExpression) (ignoresCase : Bool) (subject : ByteText)
    (position : Nat) : Option Match :=
  let start : Place := ⟨subject, none, 0, []⟩
  searchFrom (matcher ⟨ignoresCase, subject⟩ expression) (subject.length + 1) (start.skip position)

/-- All matches in a text that do not overlap, at most so many. An empty one right behind another
one does not count. -/
def searchAll (expression : RegularExpression) (ignoresCase : Bool) (subject : ByteText) :
    Nat → Nat → Option Nat → List Match
  | 0, _, _ => []
  | limit + 1, position, last =>
    if subject.length < position then []
    else
      match expression.search ignoresCase subject position with
      | none => []
      | some found =>
        if found.finish = found.start then
          let others := searchAll expression ignoresCase subject limit (found.start + 1) none
          if some found.start = last then others else found :: others
        else
          found :: searchAll expression ignoresCase subject limit found.finish (some found.finish)

/-- All matches in a text. -/
def allMatches (expression : RegularExpression) (ignoresCase : Bool) (subject : ByteText) :
    List Match :=
  expression.searchAll ignoresCase subject (2 * subject.length + 2) 0 none

/-! ### Reading -/

/-- Why a text is no expression. -/
inductive Fault
  | openBracket
  | openGroup
  | closedGroup
  | openBrace
  | badCount
  | badRepetition
  | badRange
  | badReference
  | trailingBackslash
  | badClass
  | badElement
  | tooBig
deriving DecidableEq

/-- The words for what is wrong with an expression. -/
def Fault.description : Fault → String
  | .openBracket => "Unmatched [, [^, [:, [., or [="
  | .openGroup => "Unmatched ( or \\("
  | .closedGroup => "Unmatched ) or \\)"
  | .openBrace => "Unmatched \\\x7b"
  | .badCount => "Invalid content of \\\x7b\\\x7d"
  | .badRepetition => "Invalid preceding regular expression"
  | .badRange => "Invalid range end"
  | .badReference => "Invalid back reference"
  | .trailingBackslash => "Trailing backslash"
  | .badClass => "Invalid character class name"
  | .badElement => "Invalid collation character"
  | .tooBig => "Regular expression too big"

/-- Every character. -/
def anyCharacter : CharacterSet := ⟨true, []⟩

/-- One character alone. -/
def single (character : Char) : RegularExpression :=
  .one ⟨false, [(character, character)]⟩

/-- An expression that matches a text as it stands. -/
def ofText (text : ByteText) : RegularExpression :=
  text.foldr (fun character rest => .sequence (single character) rest) .empty

/-- The characters that may stand in a word. -/
def wordRanges : List (Char × Char) :=
  [('a', 'z'), ('A', 'Z'), ('0', '9'), ('_', '_')]

/-- The characters that are white space. -/
def spaceRanges : List (Char × Char) :=
  [(' ', ' '), ('\t', '\r')]

/-- How expressions are written: whether the bare forms have a meaning, which of them may stand where
they mean nothing, and which escapes stand for characters. -/
structure Style where
  isExtended : Bool
  permitted : List Char
  escapes : List (Char × Char)

/-- How many repetitions can be asked for. -/
def repetitionLimit : Nat := 32767

/-- What is read: what is left, the groups opened so far and those closed. -/
structure State where
  rest : ByteText
  groups : Nat

/-- A step of reading. -/
abbrev Reading := StateT State (Except Fault)

/-- Whether what is left begins with an operator in the form in which it has a meaning. -/
def startsWith (style : Style) (operator : Char) (text : ByteText) : Option ByteText :=
  if style.isExtended then
    match text with
    | first :: rest => if first = operator then some rest else none
    | [] => none
  else
    match text with
    | '\\' :: first :: rest => if first = operator then some rest else none
    | _ => none

/-- The counts between braces. -/
def readCounts (text : ByteText) : Option (Nat × Option Nat) :=
  let low := text.takeWhile Char.isDigit
  match text.drop low.length with
  | [] => if low.isEmpty then none else some (Text.digitsValue low, some (Text.digitsValue low))
  | ',' :: high =>
    if high.all Char.isDigit then
      some (Text.digitsValue low, if high.isEmpty then none else some (Text.digitsValue high))
    else none
  | _ => none

/-- The repetition between braces, behind the opening one. -/
def readBraces (style : Style) (inner : ByteText) :
    Except Fault ((Nat × Option Nat) × ByteText) :=
  let counts := inner.takeWhile fun character => character.isDigit || character = ','
  let after := inner.drop counts.length
  match startsWith style '\x7d' after, readCounts counts with
  | some rest, some (low, high) =>
    if high.any fun high => high < low then .error .badCount
    else if repetitionLimit < max low (high.getD 0) then .error .tooBig
    else .ok ((low, high), rest)
  | some _, none => .error .badCount
  | none, _ =>
    let isOpen := (List.range inner.length).all fun count =>
      (startsWith style '\x7d' (inner.drop count)).isNone
    .error (if isOpen then .openBrace else .badCount)

/-- The repetition that comes next. -/
def readRepetition (style : Style) (text : ByteText) :
    Except Fault (Option ((Nat × Option Nat) × ByteText)) :=
  match text with
  | '*' :: rest => .ok (some ((0, none), rest))
  | _ =>
    match startsWith style '+' text, startsWith style '?' text, startsWith style '\x7b' text with
    | some rest, _, _ => .ok (some ((1, none), rest))
    | _, some rest, _ => .ok (some ((0, some 1), rest))
    | _, _, some inner =>
      match readBraces style inner with
      | .ok found => .ok (some found)
      | .error fault =>
        let isNoCount := (readCounts (inner.takeWhile (· ≠ '\x7d'))).isNone
        if style.isExtended && style.permitted.contains '\x7b' &&
            (fault = .openBrace || isNoCount) then .ok none
        else .error fault
    | _, _, _ => .ok none

/-- Read repetitions behind an expression, as many as there are. -/
def readRepetitions (style : Style) : Nat → RegularExpression → Reading RegularExpression
  | 0, body => pure body
  | limit + 1, body => do
    match readRepetition style (← get).rest with
    | .error fault => throw fault
    | .ok none => pure body
    | .ok (some ((low, high), rest)) =>
      modify fun state => { state with rest := rest }
      readRepetitions style limit (.repeated low high body)

/-- Read an escape behind its backslash. -/
def readEscape (style : Style) : Reading RegularExpression := do
  let state ← get
  match state.rest with
  | [] => throw .trailingBackslash
  | first :: rest =>
    set { state with rest := rest }
    match first with
    | 'w' => pure (.one ⟨false, wordRanges⟩)
    | 'W' => pure (.one ⟨true, wordRanges⟩)
    | 's' => pure (.one ⟨false, spaceRanges⟩)
    | 'S' => pure (.one ⟨true, spaceRanges⟩)
    | 'b' => pure (.wordEdge true)
    | 'B' => pure (.wordEdge false)
    | '<' => pure .wordStart
    | '>' => pure .wordFinish
    | '\x60' => pure .lineStart
    | '\'' => pure .lineEnd
    | _ =>
      match style.escapes.find? fun entry => entry.1 = first with
      | some (_, character) => pure (single character)
      | none =>
        if '1' ≤ first && first ≤ '9' then
          let number := first.toNat - '0'.toNat
          if number ≤ state.groups then pure (.reference number) else throw .badReference
        else pure (single first)

/-- What is wrong with the names in a set of characters. -/
def nameFault? : ByteText → Option Fault
  | [] => none
  | '[' :: mark :: rest =>
    let name := rest.takeWhile (· ≠ mark)
    let isNamed := (rest.drop name.length).tail.head? = some ']'
    if mark = ':' && isNamed && (CharacterSet.class? name).isNone then some .badClass
    else if (mark = '.' || mark = '=') && isNamed && name.length ≠ 1 then some .badElement
    else nameFault? (mark :: rest)
  | _ :: rest => nameFault? rest

/-- Read a set of characters behind its bracket. -/
def readSet (style : Style) : Reading RegularExpression := do
  let state ← get
  match CharacterSet.read ['^'] false (MarkedText.plain state.rest) with
  | some (set_, rest) =>
    set { state with rest := MarkedText.bare rest }
    match nameFault? (state.rest.take (state.rest.length - rest.length)) with
    | some fault => throw fault
    | none => pure ()
    if set_.ranges.any fun (low, high) => high < low then throw .badRange
    let extra := style.escapes.filterMap fun (name, character) =>
      if (set_.ranges.contains ('\\', '\\')) && set_.ranges.contains (name, name) then
        some (character, character)
      else none
    pure (.one (if extra.isEmpty then set_
      else ⟨set_.isNegated, extra ++ set_.ranges.filter fun range =>
        range ≠ ('\\', '\\') && !(style.escapes.any fun entry => range = (entry.1, entry.1))⟩))
  | none => throw .openBracket

/-- Whether a text begins where an alternative or a group ends. -/
def endsBranch (style : Style) (text : ByteText) : Bool :=
  text.isEmpty || (startsWith style '|' text).isSome || (startsWith style ')' text).isSome

/-- Read what can be repeated. The flag says that nothing stands before it. -/
def readAtom (style : Style) (inner : Reading RegularExpression) (isFirst : Bool) :
    Reading RegularExpression := do
  let state ← get
  match startsWith style '(' state.rest with
  | some rest =>
    let number := state.groups + 1
    set { state with rest := rest, groups := number }
    let body ← inner
    match startsWith style ')' (← get).rest with
    | some after =>
      modify fun state => { state with rest := after }
      pure (.group number body)
    | none => throw .openGroup
  | none =>
    match state.rest with
    | [] => pure .empty
    | character :: rest =>
      set { state with rest := rest }
      match character with
      | '\\' => readEscape style
      | '[' => readSet style
      | '.' => pure (.one anyCharacter)
      | '^' => if style.isExtended || isFirst then pure .lineStart else pure (single '^')
      | '$' =>
        if style.isExtended || endsBranch style rest then pure .lineEnd else pure (single '$')
      | other => pure (single other)

/-- Whether a repetition stands where nothing can be repeated, and what it stands for there. -/
def readLoneRepetition (style : Style) : Reading (Option RegularExpression) := do
  let state ← get
  match state.rest with
  | character :: rest =>
    if character = '*' && !style.isExtended then
      set { state with rest := rest }
      pure (some (single '*'))
    else if style.isExtended && ['*', '+', '?', '\x7b'].contains character then
      if !style.permitted.contains character then throw .badRepetition
      else if character = '\x7b' then pure none
      else
        set { state with rest := rest }
        pure (some .empty)
    else pure none
  | [] => pure none

/-- Read a row of expressions up to the end of an alternative. -/
def readBranch (style : Style) (inner : Reading RegularExpression) :
    Nat → Bool → RegularExpression → Reading RegularExpression
  | 0, _, before => pure before
  | limit + 1, isFirst, before => do
    if endsBranch style (← get).rest then pure before
    else
      let atom ←
        if isFirst then
          match ← readLoneRepetition style with
          | some literal => pure literal
          | none => readAtom style inner true
        else readAtom style inner false
      let isAnchor := match atom with
        | .lineStart => true
        | _ => false
      if isAnchor then readBranch style inner limit isFirst (.sequence before atom)
      else
        let whole ← readRepetitions style ((← get).rest.length + 1) atom
        readBranch style inner limit false (.sequence before whole)

/-- Read alternatives. -/
def readChoice (style : Style) (inner : Reading RegularExpression) :
    Nat → Reading RegularExpression
  | 0 => pure .empty
  | limit + 1 => do
    let first ← readBranch style inner ((← get).rest.length + 1) true .empty
    match startsWith style '|' (← get).rest with
    | some rest =>
      modify fun state => { state with rest := rest }
      .choice first <$> readChoice style inner limit
    | none => pure first

/-- Read alternatives that stand at most so deep inside of groups. -/
def readNested (style : Style) : Nat → Reading RegularExpression
  | 0 => throw .openGroup
  | depth + 1 => do
    readChoice style (readNested style depth) ((← get).rest.length + 1)

/-- Read an expression, and go on behind closing brackets that close nothing where these are let
pass. -/
def readWhole (style : Style) : Nat → ByteText → Nat → Except Fault RegularExpression
  | 0, _, _ => .error .closedGroup
  | limit + 1, text, groups =>
    match (readNested style (text.length + 2)).run ⟨text, groups⟩ with
    | .error fault => .error fault
    | .ok (expression, state) =>
      match state.rest with
      | [] => .ok expression
      | _ :: rest =>
        if style.isExtended && style.permitted.contains ')' then
          (readWhole style limit rest state.groups).map fun others =>
            .sequence expression (.sequence (single ')') others)
        else .error .closedGroup

/-- The expression that a text writes. -/
def read (style : Style) (text : ByteText) : Except Fault RegularExpression :=
  readWhole style (text.length + 1) text 0

end RegularExpression

end CodeNavigator
