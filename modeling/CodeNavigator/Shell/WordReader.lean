/-
This file reads words. What a character means depends on what it stands in: in a bare word, between
double quotes, between the braces of a parameter, in an arithmetic expression or in a here-document.
Commands inside of words are read by the reader of commands, and pieces inside of pieces by this
reader again; both come as arguments.
-/

import CodeNavigator.Shell.Source

namespace CodeNavigator.Shell

/-- What a row of pieces stands in, and so where it ends. A bracket holds the index of a list, and
a part of a parameter ends at one of some characters. -/
inductive Context
  | word
  | doubleQuotes
  | braces (isQuoted : Bool)
  | part (isQuoted : Bool) (closings : List Char)
  | arithmetic
  | pattern
  | document
deriving DecidableEq

/-- The kinds of command lists: one line, commands up to a closing word, and the same or none. -/
inductive ListKind
  | line
  | block
  | optionalBlock
deriving DecidableEq

/-- The readers for what stands inside of something else. -/
structure Inner where
  script : ListKind → Reading Script
  command : Reading Script
  pieces : Context → Reading Word
  token : Reading Token

namespace Context

/-- Whether pieces are quoted. -/
def isQuoted : Context → Bool
  | .doubleQuotes | .arithmetic | .document => true
  | .braces isQuoted | .part isQuoted _ => isQuoted
  | .word | .pattern => false

/-- What is missing when the text ends in a context. -/
def fault? : Context → Option Fault
  | .word | .document | .pattern => none
  | .doubleQuotes => some (.openQuotes '"')
  | .braces isQuoted | .part isQuoted _ => some (if isQuoted then .openQuotes '"' else .openBrace)
  | .arithmetic => some .openArithmetic

end Context

/-- Whether a character ends a bare word. -/
def endsWord (character : Char) : Bool :=
  [' ', '\t', '\n', ';', '&', '|', '<', '>', '(', ')'].contains character

/-! ### Quotes -/

/-- Take what stands up to a character, and leave the character out. -/
def takeQuoted (mark : Char) : Reading ByteText := do
  let source ← get
  let inner := source.rest.takeWhile (· ≠ mark)
  let after := source.rest.drop inner.length
  if after.isEmpty then throw (.openQuotes mark)
  else
    set { source with rest := after.drop 1, line := source.line + inner.count '\n' }
    pure inner

/-- The value of a digit in bases up to sixteen. -/
def digitValue? (base : Nat) (character : Char) : Option Nat :=
  let value :=
    if character.isDigit then character.toNat - '0'.toNat
    else if character.isLower then character.toNat - 'a'.toNat + 10
    else if character.isUpper then character.toNat - 'A'.toNat + 10
    else base
  if value < base then some value else none

/-- The number that a row of digits writes. -/
def digitsValue (base : Nat) (digits : ByteText) : Nat :=
  digits.foldl (fun value digit => value * base + (digitValue? base digit).getD 0) 0

/-- The digits at the beginning of a text, at most so many. -/
def leadingDigits (base limit : Nat) (text : ByteText) : ByteText :=
  (text.take limit).takeWhile fun character => (digitValue? base character).isSome

/-- The escapes that are written with one letter. -/
def letterEscapes : List (Char × Char) :=
  [('a', '\x07'), ('b', '\x08'), ('e', '\x1b'), ('f', '\x0c'), ('n', '\n'), ('r', '\r'),
    ('t', '\t'), ('v', '\x0b'), ('\\', '\\')]

/-- The text behind a dollar sign between single quotes, in which backslashes announce special
characters. -/
def unescapeQuoted : Nat → ByteText → ByteText
  | 0, text => text
  | limit + 1, '\\' :: mark :: rest =>
    let numbered (base digits : Nat) (start : ByteText) (unchanged : ByteText) : ByteText :=
      let found := leadingDigits base digits start
      if found.isEmpty then unchanged ++ unescapeQuoted limit start
      else
        let value := digitsValue base found
        (if 4 ≤ digits then ByteText.ofString (String.ofList [Char.ofNat value])
          else [Char.ofNat (value % 256)]) ++ unescapeQuoted limit (start.drop found.length)
    if mark = 'x' then numbered 16 2 rest ['\\', 'x']
    else if mark = 'u' then numbered 16 4 rest ['\\', 'u']
    else if mark = 'U' then numbered 16 8 rest ['\\', 'U']
    else if (digitValue? 8 mark).isSome then numbered 8 3 (mark :: rest) []
    else if ['\'', '"', '?'].contains mark then mark :: unescapeQuoted limit rest
    else if mark = 'E' then '\x1b' :: unescapeQuoted limit rest
    else
      match letterEscapes.find? fun entry => entry.1 = mark with
      | some (_, character) => character :: unescapeQuoted limit rest
      | none => '\\' :: mark :: unescapeQuoted limit rest
  | limit + 1, character :: rest => character :: unescapeQuoted limit rest
  | _, [] => []

/-- Take what stands up to the single quote that no backslash protects. -/
def takeEscaped : Reading ByteText :=
  repeatReading [] fun taken => do
    match (← get).rest with
    | '\\' :: character :: _ =>
      drop 2
      pure (.inl (character :: '\\' :: taken))
    | '\'' :: _ =>
      drop 1
      pure (.inr (unescapeQuoted taken.length taken.reverse))
    | character :: _ =>
      drop 1
      pure (.inl (character :: taken))
    | [] => throw (.openQuotes '\'')

/-! ### Commands in words -/

/-- Take the script between backquotes. A backslash in it protects only a few characters. -/
def takeBackquoted (isQuoted : Bool) : Reading ByteText :=
  repeatReading [] fun taken => do
    skipJoints
    match (← get).rest with
    | [] => throw .openBackquotes
    | '\x60' :: _ =>
      drop 1
      pure (.inr taken.reverse)
    | '\\' :: character :: _ =>
      drop 2
      if ['\\', '\x60', '$'].contains character || (isQuoted && character = '"') then
        pure (.inl (character :: taken))
      else pure (.inl (character :: '\\' :: taken))
    | character :: _ =>
      drop 1
      if character = '\n' then countLine
      pure (.inl (character :: taken))

/-- Read a command between backquotes. -/
def readBackquoted (inner : Inner) (isQuoted : Bool) : Reading Piece := do
  let text ← takeBackquoted isQuoted
  .output isQuoted <$> readInstead text 1 (inner.script .optionalBlock)

/-- Read a command between parentheses. -/
def readOutput (inner : Inner) (isQuoted : Bool) : Reading Piece := do
  let awaited := (← get).awaited
  modify fun source => { source with awaited := [], pushedBack := none }
  let script ← inner.script .optionalBlock
  match ← inner.token with
  | .symbol ")" => pure ()
  | other => throw (.unexpected other.name (some ")"))
  modify fun source => { source with awaited := awaited, pushedBack := none }
  pure (.output isQuoted script)

/-! ### Parameters -/

/-- Whether a character is the name of a special parameter. -/
def isSpecial (character : Char) : Bool :=
  character.isDigit || ['!', '#', '$', '*', '-', '?', '@'].contains character

/-- The remedies with their marks. -/
def remedies : List (Char × Remedy) :=
  [('-', .fallback), ('=', .assignment), ('?', .demand), ('+', .alternative)]

/-- Read an invalid use up to the closing brace. -/
def readInvalid (inner : Inner) (isQuoted : Bool) : Reading Use := do
  let _ ← inner.pieces (.braces isQuoted)
  pure .invalid

/-- Read a pattern and what replaces it. -/
def readReplacement (inner : Inner) (isQuoted : Bool) : Reading Use := do
  let extent ←
    if ← accept '/' then pure Extent.all
    else if ← accept '#' then pure Extent.beginning
    else if ← accept '%' then pure Extent.ending
    else pure Extent.first
  let pattern ← inner.pieces (.part false ['/', '\x7d'])
  if ← accept '/' then
    let word ← inner.pieces (.braces isQuoted)
    pure (.replace extent pattern word)
  else
    let _ ← accept '\x7d'
    pure (.replace extent pattern [])

/-- Read where a part of a value begins, and how long it is. -/
def readSlice (inner : Inner) : Reading Use := do
  let start ← inner.pieces (.part true [':', '\x7d'])
  if ← accept ':' then
    let length ← inner.pieces (.braces true)
    pure (.slice start (some length))
  else
    let _ ← accept '\x7d'
    pure (.slice start none)

/-- Read how a parameter is used, up to the closing brace. -/
def readUse (inner : Inner) (isQuoted : Bool) : Reading Use := do
  let hasExtras := (← get).hasExtras
  match ← peek with
  | some '\x7d' =>
    drop 1
    pure .value
  | some ':' =>
    drop 1
    match ← peek with
    | some mark =>
      match remedies.find? fun entry => entry.1 = mark with
      | some (_, remedy) =>
        drop 1
        .missing remedy true <$> inner.pieces (.braces isQuoted)
      | none => if hasExtras then readSlice inner else readInvalid inner isQuoted
    | none => readInvalid inner isQuoted
  | some mark =>
    match remedies.find? fun entry => entry.1 = mark with
    | some (_, remedy) =>
      drop 1
      .missing remedy false <$> inner.pieces (.braces isQuoted)
    | none =>
      if mark = '#' || mark = '%' then
        drop 1
        let isLongest ← accept mark
        .cut (mark = '%') isLongest <$> inner.pieces (.braces false)
      else if hasExtras && mark = '/' then
        drop 1
        readReplacement inner isQuoted
      else if hasExtras && (mark = '^' || mark = ',') then
        drop 1
        let isWhole ← accept mark
        let _ ← inner.pieces (.braces isQuoted)
        pure (.recase (mark = '^') isWhole)
      else readInvalid inner isQuoted
  | none => readInvalid inner isQuoted

/-- Read the index of a list, if one comes next. -/
def readIndex (inner : Inner) : Reading (Option Word) := do
  if (← get).hasExtras then
    if ← accept '[' then
      let index ← inner.pieces (.part true [']'])
      let _ ← accept ']'
      pure (some index)
    else pure none
  else pure none

/-- Read the name of a parameter between braces. -/
def readParameterName : Reading (Option ByteText) := do
  match ← peek with
  | some character =>
    if isNameStart character then some <$> takeWhile isNameCharacter
    else if character.isDigit then some <$> takeWhile Char.isDigit
    else if isSpecial character then
      drop 1
      pure (some [character])
    else pure none
  | none => pure none

/-- Whether a text goes on as the name of a parameter whose length is asked for. -/
def asksForLength (text : ByteText) : Bool :=
  match (withoutJoints text).2 with
  | first :: second :: _ => isNameCharacter first || (isSpecial first && second = '\x7d')
  | _ => false

/-- Read a parameter between braces. -/
def readBraced (inner : Inner) (isQuoted : Bool) : Reading Piece := do
  let source ← get
  match source.rest with
  | '#' :: rest =>
    if asksForLength rest then
      drop 1
      let name ← readParameterName
      let index ← readIndex inner
      if ← accept '\x7d' then pure (.parameter isQuoted (name.getD []) index .length)
      else .parameter isQuoted (name.getD []) index <$> readInvalid inner isQuoted
    else
      drop 1
      .parameter isQuoted ['#'] none <$> readUse inner isQuoted
  | '!' :: next :: _ =>
    if source.hasExtras && isNameCharacter next then
      drop 1
      let name ← readParameterName
      let index ← readIndex inner
      let use := if index.isSome then Use.names else .indirect
      if ← accept '\x7d' then pure (.parameter isQuoted (name.getD []) index use)
      else .parameter isQuoted (name.getD []) index <$> readInvalid inner isQuoted
    else
      drop 1
      .parameter isQuoted ['!'] none <$> readUse inner isQuoted
  | _ =>
    match ← readParameterName with
    | some name =>
      let index ← readIndex inner
      .parameter isQuoted name index <$> readUse inner isQuoted
    | none => .parameter isQuoted [] none <$> readInvalid inner isQuoted

/-- Read what a dollar sign begins. -/
def readDollar (inner : Inner) (isQuoted : Bool) : Reading Piece := do
  match ← peek with
  | some '(' =>
    drop 1
    if ← accept '(' then .arithmetic isQuoted <$> inner.pieces .arithmetic
    else readOutput inner isQuoted
  | some '\x7b' =>
    drop 1
    skipJoints
    readBraced inner isQuoted
  | some character =>
    if isNameStart character then
      let name ← takeWhile isNameCharacter
      pure (.parameter isQuoted name none .value)
    else if isSpecial character then
      drop 1
      pure (.parameter isQuoted [character] none .value)
    else pure (.text isQuoted ['$'])
  | none => pure (.text isQuoted ['$'])

/-! ### Pieces -/

/-- The pieces of a word read so far, the last one first. The depth counts open parentheses, and the
flag says that quotes are open between quoted braces. -/
structure Progress where
  pieces : List Piece
  depth : Nat
  isInQuotes : Bool

/-- One more piece. Pieces of text grow together. -/
def Progress.add (progress : Progress) (piece : Piece) : Progress :=
  match piece with
  | .text isQuoted text => { progress with pieces := Word.addText isQuoted text progress.pieces }
  | other => { progress with pieces := other :: progress.pieces }

/-- The characters that a backslash protects between quotes. -/
def isProtected (context : Context) (isInQuotes : Bool) (character : Char) : Bool :=
  match context with
  | .braces _ | .part _ _ => ['\\', '\x60', '$', '"', '\x7d'].contains character
  | .document => ['\\', '\x60', '$'].contains character
  | _ => isInQuotes || ['\\', '\x60', '$', '"'].contains character

/-- Read what a backslash begins. -/
def readBackslash (context : Context) (progress : Progress) : Reading Progress := do
  match (← get).rest with
  | [] => pure (progress.add (.text true ['\\']))
  | character :: _ =>
    drop 1
    if character = '\n' then countLine
    if !context.isQuoted || isProtected context false character then
      pure (progress.add (.text true [character]))
    else pure (progress.add (.text true ['\\', character]))

/-- The characters that mean nothing in any context but a word. -/
def isOrdinary (character : Char) : Bool :=
  !(['\\', '$', '\x60', '"', '\'', '\x7d', '\n', '(', ')', '/', ':', ']'].contains character)

/-- Whether pieces end before a character, without the closing of their context. -/
def endsBefore (context : Context) (progress : Progress) (character : Char) : Bool :=
  match context with
  | .word => endsWord character
  | .pattern => [' ', '\t', '\n'].contains character && progress.depth = 0
  | .part _ closings => closings.contains character && progress.depth = 0
  | _ => false

/-- Read a parenthesis. -/
def readParenthesis (context : Context) (progress : Progress) (character : Char) :
    Reading (Sum Progress Word) := do
  drop 1
  let added := progress.add (.text context.isQuoted [character])
  if character = '(' then pure (.inl { added with depth := progress.depth + 1 })
  else if 0 < progress.depth then pure (.inl { added with depth := progress.depth - 1 })
  else if context = .arithmetic then
    if ← accept ')' then pure (.inr progress.pieces.reverse) else pure (.inl added)
  else pure (.inl added)

/-- Whether single quotes protect what stands between them. -/
def Context.heedsSingleQuotes (context : Context) : Bool :=
  !context.isQuoted

/-- Whether double quotes have a meaning. -/
def Context.heedsDoubleQuotes : Context → Bool
  | .arithmetic | .document => false
  | _ => true

/-- Read one more piece. -/
def readPiece (inner : Inner) (context : Context) (progress : Progress) :
    Reading (Sum Progress Word) := do
  skipJoints
  let source ← get
  let isQuoted := context.isQuoted
  match source.rest with
  | [] =>
    match context.fault? with
    | some fault => throw fault
    | none => pure (.inr progress.pieces.reverse)
  | character :: following =>
    if endsBefore context progress character then pure (.inr progress.pieces.reverse)
    else if isOrdinary character then
      let run := source.rest.takeWhile fun character =>
        isOrdinary character && !endsBefore context progress character
      drop run.length
      pure (.inl (progress.add (.text isQuoted run)))
    else
      match character with
      | '\\' =>
        drop 1
        .inl <$> readBackslash context progress
      | '\'' =>
        drop 1
        if context.heedsSingleQuotes then
          let text ← takeQuoted '\''
          pure (.inl ((progress.add .quotes).add (.text true text)))
        else pure (.inl (progress.add (.text isQuoted ['\''])))
      | '"' =>
        drop 1
        if context = .doubleQuotes then pure (.inr progress.pieces.reverse)
        else if !context.heedsDoubleQuotes then pure (.inl (progress.add (.text isQuoted ['"'])))
        else if isQuoted then
          pure (.inl { progress.add .quotes with isInQuotes := !progress.isInQuotes })
        else
          let pieces ← inner.pieces .doubleQuotes
          match pieces with
          | [.parameter true ['@'] none .value] =>
            pure (.inl { progress with pieces := pieces ++ progress.pieces })
          | _ => pure (.inl (pieces.foldl Progress.add (progress.add .quotes)))
      | '$' =>
        drop 1
        if source.hasExtras && !isQuoted && following.head? = some '\'' then
          drop 1
          let text ← takeEscaped
          pure (.inl ((progress.add .quotes).add (.text true text)))
        else if source.hasExtras && !isQuoted && following.head? = some '"' then
          pure (.inl progress)
        else
          let piece ← readDollar inner isQuoted
          pure (.inl (progress.add piece))
      | '\x60' =>
        drop 1
        let piece ← readBackquoted inner isQuoted
        pure (.inl (progress.add piece))
      | '\x7d' =>
        drop 1
        match context with
        | .braces _ =>
          if progress.isInQuotes then pure (.inl (progress.add (.text isQuoted [character])))
          else pure (.inr progress.pieces.reverse)
        | _ => pure (.inl (progress.add (.text isQuoted [character])))
      | '(' | ')' =>
        match context with
        | .arithmetic | .part _ _ | .pattern => readParenthesis context progress character
        | _ =>
          drop 1
          pure (.inl (progress.add (.text isQuoted [character])))
      | _ =>
        drop 1
        if character = '\n' then countLine
        pure (.inl (progress.add (.text isQuoted [character])))

/-- Read a row of pieces. -/
def readPieces (inner : Inner) (context : Context) : Reading Word :=
  repeatReading ⟨[], 0, false⟩ (readPiece inner context)

end CodeNavigator.Shell
