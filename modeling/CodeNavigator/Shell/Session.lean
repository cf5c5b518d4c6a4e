/-
This file defines the state of a running shell and the actions on it. A shell is a process with
parameters, variables, functions, options and traps of its own. An action changes the state and may
leave what is being done: for good, up to the end of a function or a loop, or because something
failed, which ends the script unless a command that is not special was at work. What a shell starts
as a process of its own works on a copy of the state, of which only the machine remains.
-/

import CodeNavigator.Machine.Loading
import CodeNavigator.Shell.Script
import CodeNavigator.Text.Decimal

namespace CodeNavigator.Shell

/-! ### Variables -/

/-- The value of a variable. A declared variable may lack one. Lists know their elements by number,
tables by text. -/
inductive Value
  | missing
  | text (text : ByteText)
  | list (elements : List (Nat × ByteText))
  | table (entries : List (ByteText × ByteText))

/-- A variable of a shell. Programs that the shell starts see the exported ones, and a fixed one
keeps its value. -/
structure Variable where
  name : ByteText
  value : Value
  isExported : Bool
  isFixed : Bool

/-- The text of a value. A list stands for its first element. -/
def Value.text? : Value → Option ByteText
  | .missing => none
  | .text content => some content
  | .list elements => (elements.find? fun element => element.1 = 0).map Prod.snd
  | .table entries => (entries.find? fun entry => entry.1 = ['0']).map Prod.snd

/-- The elements of a value, in order. -/
def Value.elements : Value → List ByteText
  | .missing => []
  | .text content => [content]
  | .list elements => elements.map Prod.snd
  | .table entries => entries.map Prod.snd

/-- The names of the elements of a value. -/
def Value.names : Value → List ByteText
  | .missing => []
  | .text _ => [['0']]
  | .list elements => elements.map fun element => ByteText.ofNat element.1
  | .table entries => entries.map Prod.fst

/-! ### State -/

/-- A job of a shell: a process in the background, with the last number of those that it started, the
number of the job, how many parts it has, its end and the time of it. Its end is noticed at some time
after it has come, and it may have been waited for. -/
structure Child where
  number : Nat
  last : Nat
  slot : Nat
  partCount : Nat
  ending : Ending
  finish : Nat
  isNoticed : Bool
  isWaitedFor : Bool

/-- The state of a shell. What it is called, the line and what it is busy with stand in its
complaints. A failure is tested where a condition waits
for it. The directory is written with the links that led to it. The hidden variables are those that
functions replaced by their own, one list for each function at work, and the names of those are kept,
the last one first. The paths of programs are
remembered under their names. -/
structure Session where
  process : Process
  hasExtras : Bool
  isFromFile : Bool
  name : ByteText
  title : Option ByteText
  line : Nat
  shellNumber : Nat
  directory : ByteText
  parameters : List ByteText
  bindings : List Variable
  functions : List (ByteText × Script)
  aliases : List (ByteText × ByteText)
  remembered : List (ByteText × ByteText)
  documents : Array Document
  status : Nat
  outputStatus : Nat
  partStatuses : List Nat
  options : List Char
  isTested : Bool
  traps : List (Nat × ByteText)
  children : List Child
  lastChild : Option Nat
  loopDepth : Nat
  sourceDepth : Nat
  hidden : List (List (ByteText × Option Variable))
  calls : List ByteText
  optionOffset : Nat

/-- Why something is left before its end. -/
inductive Leaving
  | ended (ending : Ending)
  | exiting
  | failing
  | returning
  | breaking (levels : Nat)
  | continuing (levels : Nat)

/-- Something that a shell does. -/
abbrev Action := ExceptT Leaving (StateM Session)

/-- Do something that a process does. -/
def ofJob {α : Type} (job : Job α) : Action α :=
  ExceptT.mk fun session =>
    let (result, process) := job.run session.process
    let after := { session with process := process }
    match result with
    | .ok value => (.ok value, after)
    | .error ending => (.error (.ended ending), after)

/-- Give up because it went on for too long. -/
def exhaust {α : Type} : Action α :=
  throw (.ended .exhausted)

/-- Do something, and put right what it leaves behind, even if it is left early. What is put right is
found from the state before it and the state after it. -/
def afterwards {α : Type} (restore : Session → Session → Session) (body : Action α) : Action α :=
  ExceptT.mk fun session =>
    let (result, after) := body.run session
    (result, restore session after)

/-- Set the exit status of the last command. -/
def setStatus (status : Nat) : Action Unit :=
  modify fun session => { session with status := status }

/-- Whether an option is on. -/
def Session.hasOption (session : Session) (letter : Char) : Bool :=
  session.options.contains letter

/-! ### Output -/

/-- Write to a descriptor, whatever comes of it. -/
def write (descriptor : Nat) (text : ByteText) : Action Unit :=
  ofJob (Job.put descriptor text)

/-- What stands before the complaints of a shell. -/
def Session.lead (session : Session) : ByteText :=
  let word := if session.hasExtras then "line " else ""
  let place := ByteText.ofString (": " ++ word ++ toString session.line ++ ": ")
  let title := match session.title with
    | some title => title ++ [':', ' ']
    | none => []
  session.name ++ place ++ title

/-- Say something in the name of the shell. -/
def warn (message : ByteText) : Action Unit := do
  write 2 ((← get).lead ++ message ++ ['\n'])

/-- Complain, with a status. -/
def complain (status : Nat) (message : ByteText) : Action Unit := do
  warn message
  setStatus status

/-- The status of what failed in the shell itself. -/
def Session.failureStatus (session : Session) : Nat :=
  if session.hasExtras then 1 else 2

/-- Complain and give up what is being done. -/
def fail {α : Type} (message : ByteText) : Action α := do
  complain (← get).failureStatus message
  throw .failing

/-- A text followed by a remark. -/
def remark (text : ByteText) (comment : String) : ByteText :=
  text ++ ByteText.ofString (": " ++ comment)

/-! ### Looking variables up -/

/-- The separators of fields. -/
def standardSeparators : ByteText :=
  [' ', '\t', '\n']

/-- The variable of that name. -/
def Session.named? (session : Session) (name : ByteText) : Option Variable :=
  session.bindings.find? fun entry => entry.name = name

/-- The value of the variable of that name. -/
def Session.value? (session : Session) (name : ByteText) : Option ByteText :=
  (session.named? name).bind fun entry => entry.value.text?

/-- The separators that divide expanded text. -/
def Session.separators (session : Session) : ByteText :=
  (session.value? "IFS".toList).getD standardSeparators

/-- What stands between values that are joined. -/
def Session.joint (session : Session) : ByteText :=
  session.separators.take 1

/-- The letters of the options that are on. A shell with extras has some on from the beginning. -/
def Session.optionLetters (session : Session) : ByteText :=
  if session.hasExtras then
    let isOn (letter : Char) : Bool :=
      letter = 'h' || letter = 'B' || session.options.contains letter
    "abefhikmnprtuvxBCEHPT".toList.filter isOn ++
      if session.options.contains 's' then ['s'] else if session.isFromFile then [] else ['c']
  else "ubaCEVvxsnmiIfe".toList.filter fun letter => session.options.contains letter

/-- The parameters as one text, with the first separator between them. -/
def Session.joinedParameters (session : Session) : ByteText :=
  match session.separators with
  | separator :: _ => Text.join separator session.parameters
  | [] => session.parameters.flatten

/-- The elements of a list that a shell with extras has by itself. -/
def Session.builtInList? (session : Session) (name : ByteText) : Option (List ByteText) :=
  if !session.hasExtras then none
  else if name = "PIPESTATUS".toList then some (session.partStatuses.map ByteText.ofNat)
  else if name = "FUNCNAME".toList then some session.calls
  else if name = "BASH_VERSINFO".toList then
    some (["5", "2", "15", "1", "release", "x86_64-pc-linux-gnu"].map String.toList)
  else none

/-- The value of a parameter. -/
def Session.parameter? (session : Session) (name : ByteText) : Option ByteText :=
  match name with
  | ['?'] => some (ByteText.ofNat session.status)
  | ['#'] => some (ByteText.ofNat session.parameters.length)
  | ['$'] => some (ByteText.ofNat session.shellNumber)
  | ['0'] => some session.name
  | ['-'] => some session.optionLetters
  | ['!'] => session.lastChild.map ByteText.ofNat
  | ['@'] | ['*'] => some session.joinedParameters
  | _ =>
    match Text.readDigits name with
    | some number => session.parameters[number - 1]?
    | none =>
      match session.builtInList? name with
      | some (first :: _) => some first
      | some [] => none
      | none => session.value? name <|>
        if session.hasExtras && name = "LINENO".toList then some (ByteText.ofNat session.line) else none

/-! ### Setting variables -/

/-- Put a variable in the place of the one of the same name. A new one comes last. -/
def putVariable (variable_ : Variable) : List Variable → List Variable
  | [] => [variable_]
  | first :: rest =>
    if first.name = variable_.name then variable_ :: rest else first :: putVariable variable_ rest

/-- Put a variable in its place, whether it was fixed or not. -/
def Session.withVariable (session : Session) (variable_ : Variable) : Session :=
  { session with bindings := putVariable variable_ session.bindings }

/-- Give a variable another value. A fixed one refuses it. -/
def assignValue (name : ByteText) (value : Value) : Action Unit := do
  let session ← get
  match session.named? name with
  | some found =>
    if found.isFixed then
      fail (remark name (if session.hasExtras then "readonly variable" else "is read only"))
    else set (session.withVariable
      { found with value := value, isExported := found.isExported || session.hasOption 'a' })
  | none =>
    set (session.withVariable ⟨name, value, session.hasOption 'a', false⟩)
  if name = "OPTIND".toList then modify fun session => { session with optionOffset := 0 }

/-- Set a variable to a text. A list takes the text as its first element. -/
def assign (name text : ByteText) : Action Unit := do
  match ((← get).named? name).map Variable.value with
  | some (.list elements) =>
    assignValue name (.list ((0, text) :: elements.filter fun element => element.1 ≠ 0))
  | _ => assignValue name (.text text)

/-- Set a variable in the name of the shell itself. -/
def Session.setOwn (session : Session) (name text : ByteText) : Session :=
  let isExported := (session.named? name).any Variable.isExported
  session.withVariable ⟨name, .text text, isExported, false⟩

/-- Forget a variable. -/
def forget (name : ByteText) : Action Unit := do
  let session ← get
  if (session.named? name).any Variable.isFixed then
    fail (remark name (if session.hasExtras then "cannot unset: readonly variable"
      else "is read only"))
  else set { session with bindings := session.bindings.filter fun entry => entry.name ≠ name }

/-- Let programs see a variable, or let it be fixed. A new one has no value yet. -/
def mark (name : ByteText) (isExported isFixed : Bool) : Action Unit :=
  modify fun session =>
    let found := (session.named? name).getD ⟨name, .missing, false, false⟩
    session.withVariable { found with
      isExported := found.isExported || isExported
      isFixed := found.isFixed || isFixed }

/-- How many chains the table of variables has. -/
def chainCount : Nat := 39

/-- The chain of the table that a name stands in. -/
def chainOf (name : ByteText) : Nat :=
  let start := ((name.head?.map Char.toNat).getD 0) * 16
  (name.foldl (fun sum character => sum + character.toNat) start) % chainCount

/-- What programs see of the variables, in the order of the table. -/
def Session.environment (session : Session) : List (ByteText × ByteText) :=
  let exported := (session.bindings.filter Variable.isExported).filterMap fun entry =>
    entry.value.text?.map fun text => (entry.name, text)
  exported.mergeSort fun left right => chainOf left.1 ≤ chainOf right.1

/-- Do something, and give some variables back what they were before. -/
def restoring {α : Type} (names : List ByteText) (body : Action α) : Action α :=
  let isRestored (entry : Variable) : Bool := names.contains entry.name
  afterwards (fun before after =>
    { after with bindings := (after.bindings.filter fun entry => !isRestored entry) ++
        before.bindings.filter isRestored }) body

/-- Give the variables that the last function has hidden their old values. -/
def Session.reveal (session : Session) : Session :=
  match session.hidden with
  | [] => session
  | frame :: outer =>
    let restored := frame.foldl (fun bindings (name, old) =>
      match old with
      | some variable_ => putVariable variable_ bindings
      | none => bindings.filter fun entry => entry.name ≠ name) session.bindings
    { session with bindings := restored, hidden := outer }

/-! ### Surroundings -/

/-- Do something and undo its redirections. -/
def withDescriptors {α : Type} (body : Action α) : Action α :=
  afterwards (fun before after =>
    { after with process := { after.process with descriptors := before.process.descriptors } }) body

/-- Do something in the name of a command, which its complaints then tell. -/
def withTitle {α : Type} (title : Option ByteText) (body : Action α) : Action α :=
  afterwards (fun before after => { after with title := before.title }) do
    modify fun session => { session with title := title }
    body

/-- Do something whose failure is waited for. -/
def tested (body : Action Unit) : Action Unit :=
  afterwards (fun before after => { after with isTested := before.isTested }) do
    modify fun session => { session with isTested := true }
    body

/-- The time it takes to start a program, in microseconds. -/
def startDuration : Nat := 1000

/-- The time it takes until a process in the background begins. -/
def forkDuration : Nat := 300

/-- Let time pass. -/
def pass (duration : Nat) : Action Unit :=
  ofJob (Job.changeMachine fun machine => { machine with clock := machine.clock + duration })

end CodeNavigator.Shell
