/-
This file reads the scripts that edit texts. A command is a letter behind the lines that it is bound
to, and what else belongs to it depends on the letter. A reader keeps count of what it has taken, so
that a fault can be told with its position.
-/

import CodeNavigator.Editing.Script

namespace CodeNavigator.Editing

/-- What is left to read, how much was taken, the commands so far, and where blocks were opened that
are not closed yet, with the positions they were read at. -/
structure Reader where
  rest : ByteText
  taken : Nat
  commands : Script
  blocks : List (Nat × Nat)

/-- A step of reading. What is wrong is told with the position. -/
abbrev Reading := StateT Reader (Except (Fault × Nat))

/-- End with a fault at the position that is reached. -/
def fail {α : Type} (fault : Fault) : Reading α := do
  throw (fault, (← get).taken)

/-! ### Characters -/

/-- Take so many characters. -/
def skip (count : Nat) : Reading Unit :=
  modify fun reader =>
    { reader with rest := reader.rest.drop count, taken := reader.taken + count }

/-- The next character, without taking it. -/
def peek : Reading (Option Char) := do
  pure (← get).rest.head?

/-- Take the next character. -/
def next : Reading (Option Char) := do
  let found ← peek
  if found.isSome then skip 1
  pure found

/-- Take the characters of some kind that come next. -/
def takeWhile (isTaken : Char → Bool) : Reading ByteText := do
  let text := (← get).rest.takeWhile isTaken
  skip text.length
  pure text

/-- Take blanks, and the character behind them. -/
def nextBehindBlanks : Reading (Option Char) := do
  let _ ← takeWhile ByteText.isBlank
  next

/-- Take blanks, and tell the character behind them. -/
def peekBehindBlanks : Reading (Option Char) := do
  let _ ← takeWhile ByteText.isBlank
  peek

/-- Take the number that comes next behind blanks. -/
def takeNumber : Reading (Option Nat) := do
  let _ ← takeWhile ByteText.isBlank
  let digits ← takeWhile Char.isDigit
  pure (Text.readDigits digits)

/-! ### Texts between delimiters -/

/-- Where a reader stands in a set of characters: outside, behind the bracket, before a character
that does not end the set, inside, or in the name of a class that a character ends. -/
inductive SetState
  | outside
  | opened
  | shielded
  | inside
  | named (mark : Char)

/-- Where a reader stands behind a character of a set that does not end it. -/
def within (character : Char) (rest : ByteText) : SetState :=
  match rest.head? with
  | some mark =>
    if character = '[' && [':', '.', '='].contains mark then .named mark else .inside
  | none => .inside

/-- The text up to a delimiter, and how many characters it takes with the delimiter. In patterns a
set may hold the delimiter. -/
def delimited (delimiter : Char) (isPattern : Bool) :
    SetState → ByteText → Option (ByteText × Nat)
  | _, [] => none
  | .outside, '\\' :: character :: rest =>
    let kept := if character = '\n' || character = delimiter && (isPattern || character ≠ '&') then
        [character]
      else if isPattern && character = 'n' then ['\n']
      else ['\\', character]
    (delimited delimiter isPattern .outside rest).map fun (text, count) =>
      (kept ++ text, count + 2)
  | state, character :: rest =>
    let goOn (state : SetState) : Option (ByteText × Nat) :=
      (delimited delimiter isPattern state rest).map fun (text, count) =>
        (character :: text, count + 1)
    if character = '\n' && isPattern then none
    else
      match state with
      | .outside =>
        if character = delimiter then some ([], 1)
        else if character = '\n' then none
        else goOn (if isPattern && character = '[' then .opened else .outside)
      | .opened => goOn (if character = '^' then .shielded else within character rest)
      | .shielded => goOn (within character rest)
      | .inside => goOn (if character = ']' then .outside else within character rest)
      | .named mark =>
        goOn (if character = mark && rest.head? = some ']' then .shielded else .named mark)

/-- Take a text up to a delimiter. -/
def takeDelimited (delimiter : Char) (isPattern : Bool) (fault : Fault) : Reading ByteText := do
  match delimited delimiter isPattern .outside (← get).rest with
  | some (text, count) =>
    skip count
    pure text
  | none =>
    let _ ← takeWhile (· ≠ '\n')
    fail fault

/-! ### Escapes -/

/-- The characters that an escape with a letter stands for. -/
def letterEscapes : List (Char × Char) :=
  [('a', '\x07'), ('f', '\x0c'), ('n', '\n'), ('r', '\r'), ('t', '\t'), ('v', '\x0b')]

/-- The value of a digit. -/
def digitValue (digit : Char) : Nat :=
  if digit.isDigit then digit.toNat - '0'.toNat else digit.toLower.toNat - 'a'.toNat + 10

/-- The character that digits behind an escape stand for, and how many of them belong to it. -/
def numberEscape? (letter : Char) (text : ByteText) : Option (Char × Nat) := do
  let (base, length) ← [('x', 16, 2), ('o', 8, 3), ('d', 10, 3)].lookup letter
  let isOfBase (character : Char) : Bool :=
    (character.isDigit || ('a' ≤ character.toLower && character.toLower ≤ 'f')) &&
      digitValue character < base
  let digits := (text.take length).takeWhile isOfBase
  if digits.isEmpty then none
  else
    let value := digits.foldl (fun value digit => value * base + digitValue digit) 0
    some (Char.ofNat (value % 256), digits.length)

/-- The character that an escape behind its backslash stands for, and how much it takes. -/
def escape? (text : ByteText) : Option (Char × Nat) :=
  match text with
  | 'c' :: character :: _ => some (Char.ofNat (character.toUpper.toNat ^^^ 64), 2)
  | letter :: rest =>
    match letterEscapes.lookup letter with
    | some character => some (character, 1)
    | none => (numberEscape? letter rest).map fun (character, count) => (character, count + 1)
  | [] => none

/-- A text in which escapes stand for characters and a backslash stands for what follows it. -/
def plainText : Nat → ByteText → ByteText
  | limit + 1, '\\' :: rest =>
    match escape? rest with
    | some (character, count) => character :: plainText limit (rest.drop count)
    | none =>
      match rest with
      | character :: after => character :: plainText limit after
      | [] => []
  | limit + 1, character :: rest => character :: plainText limit rest
  | _, _ => []

/-- A pattern in which the characters that are given by numbers stand as they are. -/
def patternText : Nat → ByteText → ByteText
  | limit + 1, '\\' :: letter :: rest =>
    match if letter = 'c' then escape? (letter :: rest)
      else (numberEscape? letter rest).map fun (character, count) => (character, count + 1) with
    | some (character, count) =>
      let shown := if "*.[]^$\\/+?(){}|".toList.contains character then ['\\', character]
        else [character]
      shown ++ patternText limit ((letter :: rest).drop count)
    | none => '\\' :: letter :: patternText limit rest
  | limit + 1, character :: rest => character :: patternText limit rest
  | _, _ => []

/-! ### Patterns -/

/-- The number of groups of an expression. -/
def groupCount : RegularExpression → Nat
  | .group number body => max number (groupCount body)
  | .sequence first second | .choice first second => max (groupCount first) (groupCount second)
  | .repeated _ _ body => groupCount body
  | _ => 0

/-- Read a pattern. An empty one is the one that was used last. -/
def readPattern (isExtended ignoresCase : Bool) (text : ByteText) : Reading (Option Pattern) := do
  if text.isEmpty then pure none
  else
    match RegularExpression.read ⟨isExtended, [], letterEscapes⟩
      (patternText text.length text) with
    | .ok expression => pure (some ⟨expression, ignoresCase⟩)
    | .error fault => fail (.pattern fault)

/-! ### Addresses -/

/-- Read a pattern in an address, behind its first delimiter. -/
def readAddressPattern (isExtended : Bool) (delimiter : Char) : Reading (Option Pattern) := do
  let text ← takeDelimited delimiter true .openAddress
  let flags ← takeWhile fun character => ['I', 'M'].contains character
  readPattern isExtended (flags.contains 'I') text

/-- Read the pattern that an address may be. -/
def readPatternAddress (isExtended : Bool) : Reading (Option (Option Pattern)) := do
  match ← peek with
  | some '/' =>
    skip 1
    some <$> readAddressPattern isExtended '/'
  | some '\\' =>
    skip 1
    match ← next with
    | some delimiter => some <$> readAddressPattern isExtended delimiter
    | none => fail .openAddress
  | _ => pure none

/-- Read the first address of a command. -/
def readAddress (isExtended : Bool) : Reading (Option Address) := do
  match ← readPatternAddress isExtended with
  | some pattern => pure (some (.pattern pattern))
  | none =>
    match ← peek with
    | some '$' =>
      skip 1
      pure (some .last)
    | some '+' | some '~' =>
      skip 1
      let _ ← takeNumber
      fail .badFirst
    | some digit =>
      if digit.isDigit then
        let number := (← takeNumber).getD 0
        if (← peekBehindBlanks) = some '~' then
          skip 1
          let step := (← takeNumber).getD 0
          pure (some (if step = 0 then .line number else .stepped number step))
        else pure (some (.line number))
      else pure none
    | none => pure none

/-- Read where a range ends. -/
def readBound (isExtended : Bool) : Reading Bound := do
  let _ ← takeWhile ByteText.isBlank
  match ← readPatternAddress isExtended with
  | some pattern => pure (.pattern pattern)
  | none =>
    match ← next with
    | some '$' => pure .last
    | some '+' => pure (.further ((← takeNumber).getD 0))
    | some '~' => pure (.multiple ((← takeNumber).getD 0))
    | some digit =>
      if digit.isDigit then
        let others ← takeWhile Char.isDigit
        pure (.line (Text.digitsValue (digit :: others)))
      else fail .unexpectedComma
    | none => fail .unexpectedComma

/-- Read the lines that a command is bound to, and the letter of the command. -/
def readSelection (isExtended : Bool) : Reading (Selection × Option Char) := do
  let first ← readAddress isExtended
  let bound ←
    if first.isSome && (← peekBehindBlanks) = some ',' then
      skip 1
      some <$> readBound isExtended
    else pure none
  let letter ← nextBehindBlanks
  let isEarly := match first with
    | some (.line 0) => true
    | _ => false
  let mayBeEarly := match bound with
    | some (.pattern _) => true
    | _ => false
  if isEarly && !mayBeEarly then fail .lineZero
  let isNegated := letter = some '!'
  let letter ← if isNegated then nextBehindBlanks else pure letter
  if isNegated && letter = some '!' then fail .manyNegations
  pure (⟨first, bound, isEarly, isNegated⟩, letter)

/-! ### Parts of commands -/

/-- Read the end of a command. -/
def readEnd : Reading Unit := do
  match ← peekBehindBlanks with
  | none | some '\x7d' | some '#' => pure ()
  | some character =>
    skip 1
    if !(['\n', ';'].contains character) then fail .extraCharacters

/-- Read a label. -/
def readLabel : Reading ByteText := do
  let _ ← takeWhile ByteText.isBlank
  takeWhile fun character =>
    !ByteText.isSpace character && character ≠ ';' && character ≠ '\x7d'

/-- Read the path of a file, up to the end of the line. -/
def readPath : Reading ByteText := do
  let _ ← takeWhile ByteText.isBlank
  let path ← takeWhile (· ≠ '\n')
  if path.isEmpty then fail .missingFile
  pure path

/-- The lines of a text that a command puts in, up to one whose end is not escaped, and how many
characters they take. -/
def textLines : ByteText → ByteText × Nat
  | [] => ([], 0)
  | ['\\'] => ([], 1)
  | '\\' :: character :: rest =>
    let (text, count) := textLines rest
    ('\\' :: character :: text, count + 2)
  | '\n' :: _ => ([], 1)
  | character :: rest =>
    let (text, count) := textLines rest
    (character :: text, count + 1)

/-- Read the text that a command puts in. Where everything ends behind a backslash, there is none. -/
def readText : Reading ByteText := do
  match ← peekBehindBlanks with
  | none => fail .expectedBackslash
  | some '\\' =>
    skip 1
    if (← peek) = some '\n' then skip 1
    else if (← peek).isNone then return []
  | some _ => pure ()
  let (text, count) := textLines (← get).rest
  skip count
  pure (plainText text.length text ++ ['\n'])

/-- The parts of what matches are replaced by. -/
def piecesOf : Nat → ByteText → List Piece
  | limit + 1, '&' :: rest => .group 0 :: piecesOf limit rest
  | limit + 1, '\\' :: rest =>
    match escape? rest, rest with
    | some (character, count), _ => .text [character] :: piecesOf limit (rest.drop count)
    | none, letter :: after =>
      let piece := match letter with
        | 'L' => Piece.casing .lower
        | 'U' => .casing .upper
        | 'l' => .casing .lowerOnce
        | 'u' => .casing .upperOnce
        | 'E' => .casing .asWritten
        | other => if other.isDigit then .group (digitValue other) else .text [other]
      piece :: piecesOf limit after
    | none, [] => [.text ['\\']]
  | limit + 1, character :: rest => .text [character] :: piecesOf limit rest
  | _, _ => []

/-- The flags behind a substitution. -/
structure Flags where
  isGlobal : Bool
  isPrinting : Bool
  ignoresCase : Bool
  number : Option Nat
  target : Option ByteText

/-- Read the flags behind a substitution. -/
def readFlags : Nat → Flags → Reading Flags
  | 0, flags => pure flags
  | limit + 1, flags => do
    match ← nextBehindBlanks with
    | none | some '\n' | some ';' => pure flags
    | some 'g' =>
      if flags.isGlobal then fail .manyGlobals
      readFlags limit { flags with isGlobal := true }
    | some 'p' =>
      if flags.isPrinting then fail .manyPrints
      readFlags limit { flags with isPrinting := true }
    | some 'i' | some 'I' => readFlags limit { flags with ignoresCase := true }
    | some 'm' | some 'M' => readFlags limit flags
    | some 'w' => pure { flags with target := some (← readPath) }
    | some character =>
      if character = '\x7d' || character = '#' then
        modify fun reader =>
          { reader with rest := character :: reader.rest, taken := reader.taken - 1 }
        pure flags
      else if character.isDigit then
        if flags.number.isSome then fail .manyNumbers
        let others ← takeWhile Char.isDigit
        let number := Text.digitsValue (character :: others)
        if number = 0 then fail .zeroNumber
        readFlags limit { flags with number := some number }
      else fail .unknownOption

/-- Read a substitution behind its letter. -/
def readSubstitution (isExtended : Bool) : Reading Action := do
  match ← next with
  | none => fail .openSubstitution
  | some delimiter =>
    let text ← takeDelimited delimiter true .openSubstitution
    let replacement ← takeDelimited delimiter false .openSubstitution
    let flags ← readFlags ((← get).rest.length + 1) ⟨false, false, false, none, none⟩
    let pattern ← readPattern isExtended flags.ignoresCase text
    let pieces := piecesOf replacement.length replacement
    let asked := pieces.foldl (fun most piece =>
      match piece with
      | .group number => max most number
      | _ => most) 0
    match pattern with
    | some pattern =>
      if groupCount pattern.expression < asked then fail (.badReference asked)
    | none => pure ()
    pure (.substitute
      ⟨pattern, pieces, flags.number.getD 1, flags.isGlobal, flags.isPrinting, flags.target⟩)

/-- Read which characters stand for which others. -/
def readTransliteration : Reading Action := do
  match ← next with
  | none => fail .openTransliteration
  | some delimiter =>
    let first ← takeDelimited delimiter false .openTransliteration
    let second ← takeDelimited delimiter false .openTransliteration
    let from_ := plainText first.length first
    let into := plainText second.length second
    if from_.length ≠ into.length then fail .lengthsDiffer
    readEnd
    pure (.transliterate (from_.zip into))

/-! ### Commands -/

/-- Put a command into the row. -/
def addCommand (selection : Selection) (action : Action) : Reading Unit :=
  modify fun reader => { reader with commands := reader.commands.push ⟨selection, action⟩ }

/-- Close the block that was opened last. -/
def closeBlock (selection : Selection) : Reading Unit := do
  let reader ← get
  match reader.blocks with
  | [] => fail .unexpectedBrace
  | (index, _) :: others =>
    if selection.first.isSome then fail .braceAddress
    readEnd
    addCommand selection .closeBlock
    modify fun reader =>
      let past := reader.commands.size
      { reader with
        blocks := others
        commands := reader.commands.modify index fun command =>
          { command with action := .openBlock past } }

/-- Read what a command does behind its letter. -/
def readAction (isExtended : Bool) (letter : Char) : Reading Action := do
  match letter with
  | 's' => readSubstitution isExtended
  | 'y' => readTransliteration
  | 'i' => .insert <$> readText
  | 'a' => .append <$> readText
  | 'c' => .change <$> readText
  | 'b' => .jump none <$> readLabel
  | 't' => .jump (some true) <$> readLabel
  | 'T' => .jump (some false) <$> readLabel
  | 'r' => .readFile <$> readPath
  | 'w' => do pure (.writeFile (← readPath) false)
  | 'W' => do pure (.writeFile (← readPath) true)
  | 'q' | 'Q' =>
    let status ← takeNumber
    readEnd
    pure (.quit (status.getD 0) (letter = 'q'))
  | 'l' =>
    let width ← takeNumber
    readEnd
    pure (.unfold width)
  | other =>
    if "=dDFgGhHnNpPzx".toList.contains other then
      readEnd
      pure (.plain other)
    else fail (.unknownCommand other)

/-- Read a command. -/
def readCommand (isExtended : Bool) : Reading Unit := do
  let (selection, letter) ← readSelection isExtended
  match letter with
  | none => fail .missingCommand
  | some '#' =>
    if selection.first.isSome then fail .commentAddress
    let _ ← takeWhile (· ≠ '\n')
  | some ':' =>
    if selection.first.isSome then fail .labelAddress
    let name ← readLabel
    if name.isEmpty then fail .missingLabel
    addCommand selection (.label name)
  | some '\x7b' =>
    modify fun reader =>
      { reader with blocks := (reader.commands.size, reader.taken) :: reader.blocks }
    addCommand selection (.openBlock 0)
  | some '\x7d' => closeBlock selection
  | some letter =>
    if ['q', 'Q'].contains letter && selection.bound.isSome then fail .oneAddress
    addCommand selection (← readAction isExtended letter)

/-- Read commands up to the end. -/
def readCommands (isExtended : Bool) : Nat → Reading Unit
  | 0 => pure ()
  | limit + 1 => do
    let _ ← takeWhile fun character => ByteText.isSpace character || character = ';'
    match ← peek with
    | none =>
      match (← get).blocks.getLast? with
      | some (_, position) => throw (.openBlock, position)
      | none => pure ()
    | some _ =>
      readCommand isExtended
      readCommands isExtended limit

/-- The script that a text writes, or what is wrong with it and where. -/
def read (isExtended : Bool) (text : ByteText) : Except (Fault × Nat) Script :=
  ((readCommands isExtended (text.length + 1)).run ⟨text, 0, #[], []⟩).map fun result =>
    result.2.commands

end CodeNavigator.Editing
