/-
This file defines the commands of a shell that write: one writes its arguments in a row, the other
fills a template with them.
-/

import CodeNavigator.Shell.Builtin.Basic
import CodeNavigator.Shell.Template

namespace CodeNavigator.Shell.Builtin

/-! ### Rows -/

/-- The arguments in a row up to an escape that ends it, and whether one did. -/
def joinEscaped (hasExtras : Bool) : List ByteText → ByteText × Bool
  | [] => ([], false)
  | first :: rest =>
    let (text, isEnded) := unescapeArgument hasExtras first
    if isEnded then (text, true)
    else
      let (others, isEnded) := joinEscaped hasExtras rest
      (if rest.isEmpty then text else text ++ ' ' :: others, isEnded)

/-- The letters that a shell with extras takes as options of a row. -/
def isRowOption (argument : ByteText) : Bool :=
  match argument with
  | '-' :: letter :: letters => (letter :: letters).all fun letter => ['n', 'e', 'E'].contains letter
  | _ => false

/-- Write the arguments in a row. -/
def echo : Builtin := fun _ arguments => do
  if (← get).hasExtras then
    let letters := (arguments.takeWhile isRowOption).flatten
    let words := arguments.dropWhile isRowOption
    let heedsEscapes := (letters.filter fun letter => letter = 'e' || letter = 'E').getLast? = some 'e'
    let (text, isEnded) := if heedsEscapes then joinEscaped true words
      else (Text.join ' ' words, false)
    writeOutput (if letters.contains 'n' || isEnded then text else text ++ ['\n'])
  else
    let isBare := arguments.head? = some ['-', 'n']
    let (text, isEnded) := joinEscaped false (if isBare then arguments.drop 1 else arguments)
    writeOutput (if isBare || isEnded then text else text ++ ['\n'])

/-! ### Templates -/

/-- The words for what is remarked on a template or its arguments, and whether it ends the
command. -/
def remarkText (hasExtras : Bool) : Remark → ByteText × Bool
  | .notNumeric text =>
    (remark text (if hasExtras then "invalid number" else "expected numeric value"), false)
  | .notConverted text =>
    (remark text (if hasExtras then "invalid number" else "not completely converted"), false)
  | .outOfRange text => (remark text "Numerical result out of range", false)
  | .invalidDirective text =>
    if hasExtras then
      (('\x60' :: text.getLast?.toList) ++ "': invalid format character".toList, true)
    else (remark text "invalid directive", true)
  | .missingCharacter =>
    (if hasExtras then ('\x60' :: '%' :: "': missing format character".toList)
      else "missing format character".toList, true)

/-- Fill a template and write it, or set a variable to it. -/
def fill (target : Option ByteText) (template : ByteText) (arguments : List ByteText) :
    Action Unit := do
  let hasExtras := (← get).hasExtras
  let (text, remarks, isWhole) := fillTemplate hasExtras template arguments
  match target with
  | some name =>
    setStatus 0
    assign name text
  | none => writeOutput text
  for remark in remarks do
    let (message, isFatal) := remarkText hasExtras remark
    if isFatal then fail message else complain 1 message
  unless isWhole do setStatus 1

/-- Fill a template with arguments. -/
def printf : Builtin := fun _ arguments => do
  let hasExtras := (← get).hasExtras
  let (options, operands) ← options (if hasExtras then "v:" else "") arguments
  let target := (options.find? fun option => option.1 = 'v').map Prod.snd
  match operands with
  | [] =>
    if hasExtras then complain 2 "usage: printf [-v var] format [arguments]".toList
    else fail "usage: printf format [arg ...]".toList
  | template :: values => fill target template values

end CodeNavigator.Shell.Builtin
