/-
This file defines what compiled programs have in common. A program is called by a name with
arguments, among which options may stand anywhere, and complains in its own name. The input is what
its operands lead to, one after the other.
-/

import CodeNavigator.Machine.Loading
import CodeNavigator.Text.Decimal
import CodeNavigator.Utility.Quoting

namespace CodeNavigator

/-- A call of a program: the name by which it is called, and the arguments. -/
structure Call where
  name : ByteText
  arguments : List ByteText

/-- What a program does when it is called. -/
abbrev Utility := Call → Job Nat

namespace Utility

/-! ### Complaints -/

/-- Complain in the name of a program. -/
def complain (call : Call) (message : ByteText) : Job Unit :=
  Job.put 2 (call.name ++ ": ".toList ++ message ++ ['\n'])

/-- Complain and end. -/
def fail {α : Type} (call : Call) (status : Nat) (message : ByteText) : Job α := do
  complain call message
  throw (.exited status)

/-- Complain about how a program is called, and end. -/
def misuse {α : Type} (call : Call) (status : Nat) (message : ByteText) : Job α := do
  complain call message
  Job.put 2 ("Try '".toList ++ call.name ++ " --help' for more information.\n".toList)
  throw (.exited status)

/-- A name and what is wrong with it. -/
def fault (name : ByteText) (error : SystemError) : ByteText :=
  name ++ ": ".toList ++ ByteText.ofString error.description

/-- Complain that an operand is missing, and end. -/
def missOperand {α : Type} (call : Call) (operands : List ByteText) : Job α :=
  match operands.getLast? with
  | none => misuse call 1 "missing operand".toList
  | some last => misuse call 1 ("missing operand after ".toList ++ literal last)

/-- Complain about an operand too many, and end. -/
def refuseOperand {α : Type} (call : Call) (operand : ByteText) : Job α :=
  misuse call 1 ("extra operand ".toList ++ literal operand)

/-! ### Options -/

/-- Whether an option takes a value. -/
inductive Taking
  | nothing
  | required
  | optional
deriving DecidableEq

/-- The options of a program: the letters, a colon behind each that takes a value and two behind each
that may take one, and the long names with what they take and the letter that they stand for. A program
may say how it is used where others say where to read about that. -/
structure OptionSet where
  letters : String
  names : List (String × Taking × Char)
  usage : Option (ByteText → ByteText) := none

/-- Options of a program that does not say how it is used. -/
def OptionSet.of (letters : String) (names : List (String × Taking × Char)) : OptionSet where
  letters := letters
  names := names

/-- The options that were given, with their values. -/
abbrev Chosen := List (Char × ByteText)

/-- Whether an option was given. -/
def Chosen.has (chosen : Chosen) (letter : Char) : Bool :=
  chosen.any fun option => option.1 = letter

/-- The last value of an option. -/
def Chosen.value? (chosen : Chosen) (letter : Char) : Option ByteText :=
  (chosen.reverse.find? fun option => option.1 = letter).map Prod.snd

/-- All values of an option. -/
def Chosen.values (chosen : Chosen) (letter : Char) : List ByteText :=
  (chosen.filter fun option => option.1 = letter).map Prod.snd

/-- The last of some options that was given. -/
def Chosen.last? (chosen : Chosen) (letters : List Char) : Option Char :=
  (chosen.reverse.find? fun option => letters.contains option.1).map Prod.fst

section

variable (call : Call) (status : Nat) (known : OptionSet)

/-- Complain about an option, and end. -/
def refuseOption {α : Type} (message : ByteText) : Job α := do
  match known.usage with
  | some usage =>
    complain call message
    Job.put 2 (usage call.name)
    throw (.exited status)
  | none => misuse call status message

/-- Read the letters of one argument, and tell the arguments that are left. -/
def readLetters (following : List ByteText) : ByteText → Job (Chosen × List ByteText)
  | [] => pure ([], following)
  | letter :: rest => do
    let found := if letter = ':' then [] else known.letters.toList.dropWhile (· ≠ letter)
    match found with
    | _ :: ':' :: ':' :: _ => pure ([(letter, rest)], following)
    | _ :: ':' :: _ =>
      match rest, following with
      | [], value :: others => pure ([(letter, value)], others)
      | [], [] =>
        refuseOption call status known ("option requires an argument -- '".toList ++ [letter, '\''])
      | value, others => pure ([(letter, value)], others)
    | _ :: _ =>
      let (chosen, others) ← readLetters following rest
      pure ((letter, []) :: chosen, others)
    | [] => refuseOption call status known ("invalid option -- '".toList ++ [letter, '\''])

/-- The options that a long name may mean. An exact name means itself alone. -/
def candidates (name : ByteText) : List (String × Taking × Char) :=
  match known.names.filter fun entry => entry.1.toList = name with
  | [] => known.names.filter fun entry => name.isPrefixOf entry.1.toList
  | exact => exact

/-- Read an option that is written with a long name. -/
def readName (text : ByteText) (following : List ByteText) : Job (Chosen × List ByteText) := do
  let name := text.takeWhile (· ≠ '=')
  let value? := (text.drop name.length).tail?
  match candidates known name with
  | [] => refuseOption call status known ("unrecognized option '--".toList ++ text ++ ['\''])
  | (long, taking, letter) :: others =>
    if others.any fun other => other.2.2 ≠ letter then
      let list := ((long, taking, letter) :: others).flatMap fun entry =>
        " '--".toList ++ entry.1.toList ++ ['\'']
      refuseOption call status known
        ("option '--".toList ++ text ++ "' is ambiguous; possibilities:".toList ++ list)
    else
      match taking, value?, following with
      | .nothing, some _, _ =>
        refuseOption call status known
          ("option '--".toList ++ long.toList ++ "' doesn't allow an argument".toList)
      | .required, none, next :: rest => pure ([(letter, next)], rest)
      | .required, none, [] =>
        refuseOption call status known
          ("option '--".toList ++ long.toList ++ "' requires an argument".toList)
      | _, _, _ => pure ([(letter, value?.getD [])], following)

/-- Read options and operands. Options count up to two hyphens, and behind operands only if they may
stand anywhere. -/
def readFrom (isStrict : Bool) : Nat → List ByteText → Job (Chosen × List ByteText)
  | 0, arguments => pure ([], arguments)
  | limit + 1, arguments =>
    match arguments with
    | [] => pure ([], [])
    | ['-', '-'] :: rest => pure ([], rest)
    | ('-' :: '-' :: text) :: rest => do
      let (chosen, following) ← readName call status known text rest
      let (others, operands) ← readFrom isStrict limit following
      pure (chosen ++ others, operands)
    | ('-' :: letter :: letters) :: rest => do
      let (chosen, following) ← readLetters call status known rest (letter :: letters)
      let (others, operands) ← readFrom isStrict limit following
      pure (chosen ++ others, operands)
    | operand :: rest => do
      if isStrict then pure ([], operand :: rest)
      else
        let (chosen, operands) ← readFrom isStrict limit rest
        pure (chosen, operand :: operands)

/-- The options and the operands of a call. A wrong option ends the program with a status. -/
def readOptions : Job (Chosen × List ByteText) :=
  readFrom call status known false (call.arguments.length + 1) call.arguments

/-- The options of a call and all that follows the first operand. -/
def readLeadingOptions : Job (Chosen × List ByteText) :=
  readFrom call status known true (call.arguments.length + 1) call.arguments

end

/-! ### Input and output -/

/-- Write what a program is for. If that is not possible it ends. -/
def emit (call : Call) (text : ByteText) : Job Unit := do
  match ← Job.write 1 text with
  | .ok () => pure ()
  | .error error => fail call 1 (fault "write error".toList error)

/-- Write lines. -/
def emitLines (call : Call) (lines : List ByteText) : Job Unit :=
  emit call (ByteText.unlines lines)

/-- Read all that an operand leads to. A hyphen stands for the standard input. -/
def readInput (operand : ByteText) : Job (Except SystemError ByteText) :=
  if operand = ['-'] then Job.readAll 0 else Job.readPath operand

/-- The operands that stand for the input. Without any the standard input is read. -/
def inputsOf (operands : List ByteText) : List ByteText :=
  if operands.isEmpty then [['-']] else operands

/-- Read what each of some operands leads to, and do something with it. The answer tells whether all
could be read. -/
def forInputs (call : Call) (use : ByteText → ByteText → Job Unit) :
    List ByteText → Job Bool
  | [] => pure true
  | operand :: rest => do
    let isRead ← match ← readInput operand with
      | .ok text => do
        use operand text
        pure true
      | .error error => do
        complain call (fault (shown operand) error)
        pure false
    pure (isRead && (← forInputs call use rest))

/-- Read all inputs as one text, and tell whether all could be read. -/
def readInputs (call : Call) : List ByteText → Job (ByteText × Bool)
  | [] => pure ([], true)
  | operand :: rest => do
    let (text, isRead) ← match ← readInput operand with
      | .ok text => pure (text, true)
      | .error error => do
        complain call (fault (shown operand) error)
        pure ([], false)
    let (others, areRead) ← readInputs call rest
    pure (text ++ others, isRead && areRead)

/-- The status of what was done well or not. -/
def statusOf (isWell : Bool) : Nat :=
  if isWell then 0 else 1

/-- Write what becomes of all inputs. -/
def filterInputs (call : Call) (operands : List ByteText) (change : ByteText → ByteText) :
    Job Nat := do
  let (text, isRead) ← readInputs call (inputsOf operands)
  emit call (change text)
  pure (statusOf isRead)

/-! ### Files -/

/-- A path as a path of the tree. -/
def pathOf (path : ByteText) : Path :=
  ⟨ByteText.asString path⟩

/-- What a path leads to. -/
def find (path : ByteText) : Job (Except SystemError FileTree) := do
  let process ← get
  pure (process.machine.tree.resolve process.place (pathOf path))

/-- What a path leads to, a link at its end included. -/
def findLink (path : ByteText) : Job (Except SystemError FileTree) := do
  let process ← get
  pure (process.machine.tree.resolveLink process.place (pathOf path))

/-- Whether a path leads to a directory. -/
def isDirectory (path : ByteText) : Job Bool := do
  let process ← get
  pure (process.machine.tree.leadsToDirectory process.place (pathOf path))

/-- The last name of a path, without the slashes behind it. -/
def lastName (path : ByteText) : ByteText :=
  let trimmed := ByteText.dropEnd (· = '/') path
  if trimmed.isEmpty then if path.isEmpty then [] else ['/']
  else (trimmed.reverse.takeWhile (· ≠ '/')).reverse

/-- A name behind a directory. -/
def joinPath (directory name : ByteText) : ByteText :=
  if directory.getLast? = some '/' then directory ++ name else directory ++ '/' :: name

/-- The mode of something new, without what the mask takes away. -/
def newMode (bits : Nat) : Job Mode := do
  pure ⟨bits &&& (0o7777 ^^^ (← get).mask)⟩

end Utility

end CodeNavigator
