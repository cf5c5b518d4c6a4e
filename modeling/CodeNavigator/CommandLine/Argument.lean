/-
This file reads the arguments of one level of a command line: the program itself, or one of its
commands. A level has options, each with a long name and perhaps a letter, and takes words that are
not options. Arguments are read from left to right, and the first one that breaks a rule decides:
an option that the level does not have, a missing or unfit value, a second occurrence, a word too
many. A level may instead be stopped by an option that asks for help or for the version.
-/

import CodeNavigator.Text.Split

namespace CodeNavigator.CommandLine

/-- An option of a level. -/
structure Rule where
  name : String
  letter : Option Char
  takesValue : Bool
  isRepeatable : Bool
  allowsNegative : Bool
  accepts : String → Bool

/-- How a level treats words: the first word ends the level, or each word has to fit its place. -/
inductive Words
  | end
  | places (accepts : List (String → Bool))

/-- A level of a command line. -/
structure Level where
  rules : List Rule
  words : Words

/-- Why a level is not read to its end. -/
inductive Stop
  | misuse
  | help
  | version
deriving DecidableEq

/-- What was read: the options with their values, the last one first, and the words, in order. -/
structure Found where
  options : List (String × String)
  words : List String

namespace Found

def nothing : Found := ⟨[], []⟩

/-- The value of an option, if it was given. -/
def value? (found : Found) (name : String) : Option String :=
  (found.options.find? fun option => option.1 = name).map Prod.snd

def has (found : Found) (name : String) : Bool :=
  (found.value? name).isSome

/-- The values of an option that may be repeated, in order. -/
def values (found : Found) (name : String) : List String :=
  (found.options.reverse.filter fun option => option.1 = name).map Prod.snd

end Found

/-- An option as it is written, with the value that is attached to it. -/
structure Occurrence where
  rule : Rule
  attached : Option String

/-! ### Options -/

/-- The names of the options that stop a level. -/
def helpName : String := "help"

def versionName : String := "version"

/-- Add an option with its value. -/
def Found.record (found : Found) (rule : Rule) (value : String) : Except Stop Found :=
  if rule.name = helpName then .error .help
  else if rule.name = versionName then .error .version
  else if found.has rule.name && !rule.isRepeatable then .error .misuse
  else if rule.accepts value then .ok { found with options := (rule.name, value) :: found.options }
  else .error .misuse

/-- The option that a long name means. Only an option that takes a value may have one attached. -/
def Level.long (level : Level) (text : List Char) : Except Stop Occurrence :=
  let name := text.takeWhile (· ≠ '=')
  let attached := if text.contains '=' then some (String.ofList (text.drop (name.length + 1)))
    else none
  match level.rules.find? fun rule => rule.name.toList = name with
  | some rule =>
    if rule.takesValue || attached.isNone then .ok ⟨rule, attached⟩ else .error .misuse
  | none => .error .misuse

/-- The options that some letters mean. What follows the letter of an option with a value is the
value, perhaps behind an equals sign. -/
def Level.cluster (level : Level) (found : Found) :
    List Char → Except Stop (Found × Option Occurrence)
  | [] => .ok (found, none)
  | letter :: rest =>
    match level.rules.find? fun rule => rule.letter = some letter with
    | none => .error .misuse
    | some rule =>
      if rule.takesValue then
        let attached := match rest with
          | [] => none
          | '=' :: value => some (String.ofList value)
          | value => some (String.ofList value)
        .ok (found, some ⟨rule, attached⟩)
      else
        match found.record rule "" with
        | .ok after => level.cluster after rest
        | .error stop => .error stop

/-- Whether an argument is the sign of a negative number and its digits. -/
def isNegativeNumber (argument : String) : Bool :=
  match argument.toList with
  | '-' :: digits => !digits.isEmpty && digits.all Char.isDigit
  | _ => false

/-- Whether an argument may be the value of an option before it. An argument that looks like an
option may not, unless the option takes negative numbers and the argument is one. -/
def Rule.mayFollow (rule : Rule) (argument : String) : Bool :=
  argument.toList.head? ≠ some '-' || argument = "-" ||
    (rule.allowsNegative && isNegativeNumber argument)

/-! ### Words -/

/-- Add a word at its place. -/
def Level.place (level : Level) (found : Found) (word : String) : Except Stop Found :=
  match level.words with
  | .end => .error .misuse
  | .places accepts =>
    match accepts[found.words.length]? with
    | some accept =>
      if accept word then .ok { found with words := found.words ++ [word] } else .error .misuse
    | none => .error .misuse

/-- Add several words. -/
def Level.placeAll (level : Level) (found : Found) : List String → Except Stop Found
  | [] => .ok found
  | word :: rest =>
    match level.place found word with
    | .ok after => level.placeAll after rest
    | .error stop => .error stop

/-! ### Levels -/

/-- The options that an argument writes, and the one among them that still needs its value. -/
def Level.options (level : Level) (found : Found) (argument : List Char) :
    Except Stop (Found × Option Occurrence) :=
  match argument with
  | '-' :: '-' :: text =>
    match level.long text with
    | .error stop => .error stop
    | .ok occurrence =>
      if occurrence.rule.takesValue then .ok (found, some occurrence)
      else
        match found.record occurrence.rule "" with
        | .ok after => .ok (after, none)
        | .error stop => .error stop
  | letters => level.cluster found (letters.drop 1)

/-- Read the arguments of a level. What is left begins with the word that ended the level. -/
def Level.read (level : Level) (found : Found) :
    List String → Except Stop (Found × List String)
  | [] => .ok (found, [])
  | argument :: rest =>
    if argument = "--" then
      match level.placeAll found rest with
      | .ok after => .ok (after, [])
      | .error stop => .error stop
    else if argument.toList.head? = some '-' && argument ≠ "-" then
      match level.options found argument.toList with
      | .error stop => .error stop
      | .ok (after, none) => level.read after rest
      | .ok (after, some ⟨rule, some value⟩) =>
        match after.record rule value with
        | .ok recorded => level.read recorded rest
        | .error stop => .error stop
      | .ok (after, some ⟨rule, none⟩) =>
        match rest with
        | [] => .error .misuse
        | value :: others =>
          if rule.mayFollow value then
            match after.record rule value with
            | .ok recorded => level.read recorded others
            | .error stop => .error stop
          else .error .misuse
    else
      match level.words with
      | .end => .ok (found, argument :: rest)
      | .places _ =>
        match level.place found argument with
        | .ok after => level.read after rest
        | .error stop => .error stop

end CodeNavigator.CommandLine
