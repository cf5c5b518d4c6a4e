/-
This file defines scripts that edit texts line by line. A script is a row of commands, each of which
may be bound to lines by their numbers, by patterns or by ranges of them. Blocks and jumps lead to
positions in the row, so that one number says where a script goes on.
-/

import CodeNavigator.Text.RegularExpression

namespace CodeNavigator.Editing

/-! ### Lines -/

/-- A pattern, and whether it takes capital and small letters for the same. -/
structure Pattern where
  expression : RegularExpression
  ignoresCase : Bool

/-- Which lines are meant. A pattern that is not written is the one that was used last. -/
inductive Address
  | line (number : Nat)
  | last
  | stepped (first step : Nat)
  | pattern (written : Option Pattern)

/-- Where a range ends. -/
inductive Bound
  | line (number : Nat)
  | last
  | pattern (written : Option Pattern)
  | further (count : Nat)
  | multiple (divisor : Nat)

/-- The lines that a command is bound to. A range may begin before the first line. -/
structure Selection where
  first : Option Address
  bound : Option Bound
  beginsEarly : Bool
  isNegated : Bool

/-- Every line. -/
def Selection.all : Selection :=
  ⟨none, none, false, false⟩

/-! ### Commands -/

/-- How letters are changed from some point on, for one letter or for all that follow. -/
inductive Casing
  | asWritten
  | upper
  | lower
  | upperOnce
  | lowerOnce
deriving DecidableEq

/-- A part of what a match is replaced by. -/
inductive Piece
  | text (text : ByteText)
  | group (number : Nat)
  | casing (casing : Casing)

/-- What is replaced by what: the matches from one on, or that one alone. -/
structure Substitution where
  pattern : Option Pattern
  pieces : List Piece
  number : Nat
  isGlobal : Bool
  isPrinting : Bool
  target : Option ByteText

/-- What a command does. -/
inductive Action
  | openBlock (past : Nat)
  | closeBlock
  | label (name : ByteText)
  | jump (condition : Option Bool) (name : ByteText)
  | substitute (substitution : Substitution)
  | transliterate (pairs : List (Char × Char))
  | insert (text : ByteText)
  | append (text : ByteText)
  | change (text : ByteText)
  | readFile (path : ByteText)
  | writeFile (path : ByteText) (isFirstLine : Bool)
  | quit (status : Nat) (isPrinting : Bool)
  | unfold (width : Option Nat)
  | plain (letter : Char)

/-- A command: the lines that it is bound to, and what it does with them. -/
structure Command where
  selection : Selection
  action : Action

/-- Commands in a row. -/
abbrev Script := Array Command

/-- Where a label stands. -/
def Script.labelIndex? (script : Script) (name : ByteText) : Option Nat :=
  script.findIdx? fun command =>
    match command.action with
    | .label other => other = name
    | _ => false

/-- A label that is jumped to and stands nowhere. -/
def Script.missingLabel? (script : Script) : Option ByteText :=
  script.toList.findSome? fun command =>
    match command.action with
    | .jump _ name =>
      if name.isEmpty || (script.labelIndex? name).isSome then none else some name
    | _ => none

/-- The files that a script writes to. -/
def Script.targets (script : Script) : List ByteText :=
  script.toList.filterMap fun command =>
    match command.action with
    | .writeFile path _ => some path
    | .substitute substitution => substitution.target
    | _ => none

/-! ### Faults -/

/-- Why a text is no script. -/
inductive Fault
  | unknownCommand (character : Char)
  | missingCommand
  | unexpectedComma
  | openAddress
  | openSubstitution
  | openTransliteration
  | lengthsDiffer
  | unknownOption
  | manyGlobals
  | manyPrints
  | manyNumbers
  | zeroNumber
  | extraCharacters
  | unexpectedBrace
  | openBlock
  | missingLabel
  | labelAddress
  | braceAddress
  | commentAddress
  | oneAddress
  | expectedBackslash
  | lineZero
  | badFirst
  | manyNegations
  | missingFile
  | badReference (number : Nat)
  | noPattern
  | pattern (fault : RegularExpression.Fault)

/-- The words for what is wrong with a script. -/
def Fault.message : Fault → ByteText
  | .unknownCommand character => "unknown command: \x60".toList ++ [character, '\'']
  | .missingCommand => "missing command".toList
  | .unexpectedComma => "unexpected \x60,'".toList
  | .openAddress => "unterminated address regex".toList
  | .openSubstitution => "unterminated \x60s' command".toList
  | .openTransliteration => "unterminated \x60y' command".toList
  | .lengthsDiffer => "strings for \x60y' command are different lengths".toList
  | .unknownOption => "unknown option to \x60s'".toList
  | .manyGlobals => "multiple \x60g' options to \x60s' command".toList
  | .manyPrints => "multiple \x60p' options to \x60s' command".toList
  | .manyNumbers => "multiple number options to \x60s' command".toList
  | .zeroNumber => "number option to \x60s' command may not be zero".toList
  | .extraCharacters => "extra characters after command".toList
  | .unexpectedBrace => "unexpected \x60\x7d'".toList
  | .openBlock => "unmatched \x60\x7b'".toList
  | .missingLabel => "\":\" lacks a label".toList
  | .labelAddress => ": doesn't want any addresses".toList
  | .braceAddress => "\x60\x7d' doesn't want any addresses".toList
  | .commentAddress => "comments don't accept any addresses".toList
  | .oneAddress => "command only uses one address".toList
  | .expectedBackslash => "expected \\ after \x60a', \x60c' or \x60i'".toList
  | .lineZero => "invalid usage of line address 0".toList
  | .badFirst => "invalid usage of +N or ~N as first address".toList
  | .manyNegations => "multiple \x60!'s".toList
  | .missingFile => "missing filename in r/R/w/W commands".toList
  | .badReference number =>
    "invalid reference \\".toList ++ ByteText.ofNat number ++ " on \x60s' command's RHS".toList
  | .noPattern => "no previous regular expression".toList
  | .pattern fault => ByteText.ofString fault.description

end CodeNavigator.Editing
