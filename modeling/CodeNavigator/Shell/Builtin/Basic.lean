/-
This file defines the commands that a shell does itself, and what they share: reading their options
and their numbers, and quoting values so that a shell reads them again.
-/

import CodeNavigator.Shell.Interpreter

namespace CodeNavigator.Shell

/-- A command that a shell does itself. It is given its arguments and leaves a status. -/
abbrev Builtin := Interpreter → List ByteText → Action Unit

namespace Builtin

/-! ### Options -/

/-- Whether an argument holds options. -/
def isOption (argument : ByteText) : Bool :=
  argument.head? = some '-' && 1 < argument.length && argument ≠ ['-', '-']

/-- Complain about an option that is not known. -/
def failOption {α : Type} (letter : Char) : Action α := do
  let session ← get
  if session.hasExtras then
    complain 2 (['-', letter] ++ ": invalid option".toList)
    throw .failing
  else fail ("Illegal option -".toList ++ [letter])

/-- Read the letters of one argument. A letter that takes a value has a colon behind it among those
that are known; its value is the rest of the argument, or the next argument. -/
def readLetters (known : ByteText) (following : List ByteText) :
    ByteText → Action (List (Char × ByteText) × List ByteText)
  | [] => pure ([], following)
  | letter :: rest => do
    match known.dropWhile (· ≠ letter) with
    | _ :: ':' :: _ =>
      match rest, following with
      | [], value :: others => pure ([(letter, value)], others)
      | [], [] => fail ("No arg for -".toList ++ letter :: " option".toList)
      | value, others => pure ([(letter, value)], others)
    | _ :: _ =>
      if letter = ':' then failOption letter
      else
        let (options, others) ← readLetters known following rest
        pure ((letter, []) :: options, others)
    | [] => failOption letter

/-- Read the options of a command, and tell the arguments behind them. -/
def readOptions (known : String) : Nat → List ByteText →
    Action (List (Char × ByteText) × List ByteText)
  | 0, arguments => pure ([], arguments)
  | limit + 1, arguments =>
    match arguments with
    | ['-', '-'] :: rest => pure ([], rest)
    | ('-' :: letter :: letters) :: rest => do
      let (options, following) ← readLetters known.toList rest (letter :: letters)
      let (others, operands) ← readOptions known limit following
      pure (options ++ others, operands)
    | operands => pure ([], operands)

/-- The options of a command and the arguments behind them. -/
def options (known : String) (arguments : List ByteText) :
    Action (List (Char × ByteText) × List ByteText) :=
  readOptions known (arguments.length + 1) arguments

/-- The arguments of a command that has no options. -/
def operands (arguments : List ByteText) : Action (List ByteText) := do
  let (_, rest) ← options "" arguments
  pure rest

/-- Whether an option was given. -/
def has (letter : Char) (options : List (Char × ByteText)) : Bool :=
  options.any fun option => option.1 = letter

/-! ### Numbers -/

/-- Complain about a text that is no number. -/
def failNumber {α : Type} (text : ByteText) : Action α := do
  if (← get).hasExtras then
    complain 2 (text ++ ": numeric argument required".toList)
    throw .failing
  else fail ("Illegal number: ".toList ++ text)

/-- The largest number that counts as a status. -/
def largestNumber : Nat := 2147483647

/-- The number that an argument writes in digits alone. -/
def number (text : ByteText) : Action Nat := do
  match Text.readDigits text with
  | some value => if value ≤ largestNumber then pure value else failNumber text
  | none => failNumber text

/-! ### Quotes -/

/-- A text in quotes, by turns in single quotes and, for the single quotes in it, in double ones. -/
def quoteByTurns : Nat → ByteText → ByteText
  | 0, _ => []
  | limit + 1, text =>
    let plain := text.takeWhile (· ≠ '\'')
    let marks := (text.drop plain.length).takeWhile (· = '\'')
    let rest := text.drop (plain.length + marks.length)
    let quotedMarks := if marks.isEmpty then [] else '"' :: marks ++ ['"']
    '\'' :: plain ++ '\'' :: quotedMarks ++ if rest.isEmpty then [] else quoteByTurns limit rest

/-- A text in quotes. -/
def quoted (text : ByteText) : ByteText :=
  quoteByTurns (text.length + 1) text

/-- Write a line. -/
def writeLine (text : ByteText) : Action Unit :=
  write 1 (text ++ ['\n'])

/-- Write what a command is asked for, and complain if that is not possible. -/
def writeOutput (text : ByteText) : Action Unit := do
  match ← ofJob (Job.write 1 text) with
  | .ok () => setStatus 0
  | .error error =>
    let session ← get
    if session.hasExtras then complain 1 (remark "write error".toList error.description)
    else complain 1 (session.title.getD [] ++ ": I/O error".toList)

end Builtin

end CodeNavigator.Shell
