/-
This file defines the programs that write what they are told, those that only have a status, and the
one that writes its input to several places.
-/

import CodeNavigator.Shell.Condition
import CodeNavigator.Shell.Template
import CodeNavigator.Utility.Basic

namespace CodeNavigator.Utility

/-! ### Texts -/

/-- Whether an argument holds options of a row. -/
def isRowOption (argument : ByteText) : Bool :=
  match argument with
  | '-' :: letter :: letters => (letter :: letters).all fun letter => ['n', 'e', 'E'].contains letter
  | _ => false

/-- The arguments with their escapes read, up to one that ends the row, and whether one did. -/
def joinEscaped : List ByteText → ByteText × Bool
  | [] => ([], false)
  | first :: rest =>
    let (text, isEnded) := Shell.unescapeArgument true first
    if isEnded then (text, true)
    else
      let (others, isEnded) := joinEscaped rest
      (if rest.isEmpty then text else text ++ ' ' :: others, isEnded)

/-- Write the arguments in a row. -/
def echo : Utility := fun call => do
  let letters := (call.arguments.takeWhile isRowOption).flatten
  let words := call.arguments.dropWhile isRowOption
  let heedsEscapes :=
    (letters.filter fun letter => letter = 'e' || letter = 'E').getLast? = some 'e'
  let (text, isEnded) := if heedsEscapes then joinEscaped words else (Text.join ' ' words, false)
  emit call (if letters.contains 'n' || isEnded then text else text ++ ['\n'])
  pure 0

/-- The words for what is remarked on a template or its arguments, and whether it ends the
program. -/
def remarkText : Shell.Remark → ByteText × Bool
  | .notNumeric text => (literal text ++ ": expected a numeric value".toList, false)
  | .notConverted text => (literal text ++ ": value not completely converted".toList, false)
  | .outOfRange text => (literal text ++ ": Numerical result out of range".toList, false)
  | .invalidDirective text => (text ++ ": invalid conversion specification".toList, true)
  | .missingCharacter => ("%: invalid conversion specification".toList, true)

/-- Fill a template with arguments. -/
def printf : Utility := fun call => do
  let arguments := if call.arguments.head? = some ['-', '-'] then call.arguments.drop 1
    else call.arguments
  match arguments with
  | [] => misuse call 1 "missing operand".toList
  | template :: values =>
    let (text, remarks, isWhole) := Shell.fillTemplate true template values
    emit call text
    for remark in remarks do
      complain call (remarkText remark).1
    let usesNone := !template.contains '%'
    match usesNone, values with
    | true, extra :: _ =>
      complain call ("warning: ignoring excess arguments, starting with ".toList ++ literal extra)
    | _, _ => pure ()
    pure (if remarks.isEmpty && isWhole then 0 else 1)

/-- How much is written of what has no end. -/
def endlessLength : Nat := 4200000

/-- Write the arguments in a row again and again, until nobody reads them. -/
def yes : Utility := fun call => do
  let (_, operands) ← readLeadingOptions call 1 (.of "" [])
  let line := (if operands.isEmpty then ['y'] else Text.join ' ' operands) ++ ['\n']
  let block := (List.replicate (65536 / line.length + 1) line).flatten
  let rec go : Nat → Job Nat
    | 0 => Job.waitForever
    | limit + 1 => do
      emit call block
      go limit
  go (endlessLength / 65536 + 4)

/-! ### Statuses -/

/-- Succeed. -/
def succeed : Utility := fun _ =>
  pure 0

/-- Fail. -/
def refuse : Utility := fun _ =>
  pure 1

/-- The words for a condition that makes no sense. -/
def conditionFault (arguments : List ByteText) : Shell.Condition.Fault → ByteText
  | .illegalNumber text => "invalid integer ".toList ++ literal text
  | .argumentExpected operator => "missing argument after ".toList ++ literal operator
  | .unexpectedOperator operator => literal operator ++ ": binary operator expected".toList
  | .closingExpected =>
    "missing argument after ".toList ++ literal (arguments.getLast?.getD [])
  | .missingBracket => "missing ']'".toList
  | .tooManyArguments =>
    match arguments with
    | [_, last] => "missing argument after ".toList ++ literal last
    | [_, operator, _] => literal operator ++ ": binary operator expected".toList
    | several => "extra argument ".toList ++ literal ((several[3]?).getD [])

/-- Decide a condition. -/
def decideCondition (call : Call) (arguments : List ByteText) : Job Nat := do
  let process ← get
  match Shell.Condition.decide? ⟨process, true, fun _ => false⟩ arguments with
  | .ok value => pure (if value then 0 else 1)
  | .error cause => fail call 2 (conditionFault arguments cause)

def test : Utility := fun call =>
  decideCondition call call.arguments

/-- Decide a condition in brackets. -/
def bracket : Utility := fun call =>
  if call.arguments.getLast? = some [']'] then decideCondition call call.arguments.dropLast
  else fail call 2 "missing ']'".toList

/-! ### Several places -/

/-- Write the input to the standard output and to files. -/
def tee : Utility := fun call => do
  let (chosen, operands) ← readOptions call 1 (.of "aip" [("append", .nothing, 'a'),
    ("ignore-interrupts", .nothing, 'i'), ("output-error", .optional, 'p')])
  let opened ← operands.mapM fun path => do
    match ← Job.openPath path (if chosen.has 'a' then .appending else .replacing false) with
    | .ok index => pure (some index)
    | .error error =>
      complain call (fault (shown path) error)
      pure none
  match ← Job.readAll 0 with
  | .error error => fail call 1 (fault "read error".toList error)
  | .ok text =>
    for index in opened.filterMap id do
      match (← get).machine.files[index]? with
      | some file =>
        let _ ← Job.writeTo index file text
      | none => pure ()
    emit call text
    pure (statusOf (opened.all Option.isSome))

end CodeNavigator.Utility
