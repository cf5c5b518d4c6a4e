/-
This file defines the programs that start other programs: in another environment, for a limited
time, or once for each part of their input. They find the other program along the search path of
their environment and stay until it ends.
-/

import CodeNavigator.Text.Floating
import CodeNavigator.Utility.Basic

namespace CodeNavigator.Utility

/-! ### Starting -/

/-- Be another program from now on. The answer comes back only if it cannot be started. -/
def become (start : Start) (name : ByteText) (arguments : List ByteText) : Job SystemError := do
  let process ← get
  let directories := Program.directoriesOf process.environment
  match (Program.find process.machine.tree process.place directories name).2 with
  | .ok program => throw (.exited (← start program arguments))
  | .error .cannotExecute =>
    let path := (Program.find process.machine.tree process.place directories name).1
    throw (.exited (← start ⟨"sh", "/bin/sh".toList, [path]⟩ arguments))
  | .error error => pure error

/-- The status of a program that could not be started. -/
def startStatus (error : SystemError) : Nat :=
  if error = .noSuchFile then 127 else 126

/-- The time it takes to start a program, in microseconds. -/
def startDuration : Nat := 1000

/-- Let time pass. -/
def pass (duration : Nat) : Job Unit :=
  Job.changeMachine fun machine => { machine with clock := machine.clock + duration }

/-- Start another program as a process of its own, and wait for its end. Nothing comes back if it
cannot be started, but why. -/
def run (start : Start) (name : ByteText) (arguments : List ByteText) :
    Job (Except SystemError Ending) := do
  pass startDuration
  let process ← get
  let directories := Program.directoriesOf process.environment
  match Program.find process.machine.tree process.place directories name with
  | (_, .ok program) => do
    let (_, ending) ← Job.fork (start program arguments)
    pure (.ok ending)
  | (path, .error .cannotExecute) => do
    let (_, ending) ← Job.fork (start ⟨"sh", "/bin/sh".toList, [path]⟩ arguments)
    pure (.ok ending)
  | (_, .error error) => pure (.error error)

/-! ### Environments -/

/-- A variable put into an environment. -/
def putVariable (name value : ByteText) :
    List (ByteText × ByteText) → List (ByteText × ByteText)
  | [] => [(name, value)]
  | entry :: rest =>
    if entry.1 = name then (name, value) :: rest else entry :: putVariable name value rest

/-- The options of `env`. -/
def envOptions : OptionSet where
  letters := "iu:0C:S:v"
  names := [("ignore-environment", .nothing, 'i'), ("unset", .required, 'u'), ("null", .nothing, '0'),
    ("chdir", .required, 'C'), ("split-string", .required, 'S'), ("debug", .nothing, 'v'),
    ("ignore-signal", .optional, '!'), ("default-signal", .optional, '?'),
    ("block-signal", .optional, '#')]

/-- The arguments that a text divides into, with quotes and escapes. -/
def splitArguments (environment : List (ByteText × ByteText)) :
    Nat → Option Char → Option ByteText → ByteText → List ByteText
  | 0, _, current, _ => current.toList
  | limit + 1, quote, current, text =>
    let add (taken rest : ByteText) : List ByteText :=
      splitArguments environment limit quote (some (current.getD [] ++ taken)) rest
    match text with
    | [] => current.toList
    | '\\' :: 'c' :: _ => current.toList
    | '\\' :: character :: rest =>
      match quote, character with
      | some '\'', _ =>
        if character = '\'' || character = '\\' then add [character] rest
        else add ['\\', character] rest
      | _, 'n' => add ['\n'] rest
      | _, 't' => add ['\t'] rest
      | none, '_' =>
        current.toList ++ splitArguments environment limit none none rest
      | _, '_' => add [' '] rest
      | _, other => add [other] rest
    | '$' :: '\x7b' :: rest =>
      if quote = some '\'' then add ['$'] ('\x7b' :: rest)
      else
        let name := rest.takeWhile (· ≠ '\x7d')
        let value := ((environment.find? fun entry => entry.1 = name).map Prod.snd).getD []
        add value (rest.drop (name.length + 1))
    | character :: rest =>
      match quote with
      | some mark =>
        if character = mark then
          splitArguments environment limit none (some (current.getD [])) rest
        else add [character] rest
      | none =>
        if character = '"' || character = '\'' then
          splitArguments environment limit (some character) (some (current.getD [])) rest
        else if ByteText.isSpace character then
          current.toList ++ splitArguments environment limit none none rest
        else if character = '#' && current.isNone then []
        else add [character] rest

/-- The arguments with those of a text in the place of the option that asks for it. -/
def withSplit (environment : List (ByteText × ByteText)) : List ByteText → List ByteText
  | [] => []
  | argument :: rest =>
    let divide (text : ByteText) : List ByteText :=
      splitArguments environment (text.length + 1) none none text
    match argument with
    | '-' :: letters =>
      let lead := letters.takeWhile fun letter => letter = 'i' || letter = '0' || letter = 'v'
      match letters.drop lead.length with
      | 'S' :: text =>
        let leads := if lead.isEmpty then [] else ['-' :: lead]
        if text.isEmpty then
          match rest with
          | next :: others => leads ++ divide next ++ others
          | [] => argument :: rest
        else leads ++ divide text ++ rest
      | _ =>
        if "-split-string=".toList.isPrefixOf letters then
          divide (letters.drop "-split-string=".length) ++ rest
        else argument :: withSplit environment rest
    | _ => argument :: rest

/-- Start a program in another environment, or show the environment. -/
def env (start : Start) : Utility := fun call => do
  let before := (← get).environment
  let arguments := withSplit before call.arguments
  let (chosen, operands) ← readLeadingOptions { call with arguments := arguments } 125 envOptions
  let isEmptied := chosen.has 'i' || operands.head? = some ['-']
  let rest := if operands.head? = some ['-'] then operands.drop 1 else operands
  let kept := if isEmptied then [] else before.filter fun entry =>
    !(chosen.values 'u').contains entry.1
  let settings := rest.takeWhile fun argument => argument.contains '='
  let environment := settings.foldl (fun environment setting =>
    let name := setting.takeWhile (· ≠ '=')
    putVariable name (setting.drop (name.length + 1)) environment) kept
  modify fun process => { process with environment := environment }
  match chosen.value? 'C' with
  | some directory =>
    let process ← get
    match process.machine.tree.locate process.place (pathOf directory) with
    | .ok place =>
      if (process.machine.tree.look place).any FileTree.isDirectory then
        modify fun process => { process with place := place }
      else
        fail call 125 (fault ("cannot change directory to ".toList ++ quoted directory) .notDirectory)
    | .error error =>
      fail call 125 (fault ("cannot change directory to ".toList ++ quoted directory) error)
  | none => pure ()
  match rest.drop settings.length with
  | [] =>
    let lineEnd := if chosen.has '0' then '\x00' else '\n'
    emit call (environment.flatMap fun (name, value) => name ++ '=' :: value ++ [lineEnd])
    pure 0
  | name :: arguments =>
    let error ← become start name arguments
    complain call (fault (quoted name) error)
    pure (startStatus error)

/-- Show variables of the environment. -/
def printenv : Utility := fun call => do
  let (chosen, operands) ← readLeadingOptions call 2 (.of "0" [("null", .nothing, '0')])
  let environment := (← get).environment
  let lineEnd := if chosen.has '0' then '\x00' else '\n'
  if operands.isEmpty then
    emit call (environment.flatMap fun (name, value) => name ++ '=' :: value ++ [lineEnd])
    pure 0
  else
    let found := operands.filterMap fun name =>
      (environment.find? fun entry => entry.1 = name).map Prod.snd
    emit call (found.flatMap fun value => value ++ [lineEnd])
    pure (if found.length = operands.length then 0 else 1)

/-! ### Time -/

/-- A duration in microseconds, with a unit behind it. -/
def duration? (text : ByteText) : Option Nat := do
  let (value, rest) ← Floating.read text
  let factor ← match rest with
    | [] | ['s'] => some 1.0
    | ['m'] => some 60.0
    | ['h'] => some 3600.0
    | ['d'] => some 86400.0
    | _ => none
  if value < 0.0 then none else some (value * factor * 1000000.0).ceil.toUInt64.toNat

/-- Wait for the sum of some durations. -/
def sleep : Utility := fun call => do
  let (_, operands) ← readOptions call 1 (.of "" [])
  if operands.isEmpty then misuse call 1 "missing operand".toList
  let mut total := 0
  let mut isValid := true
  for text in operands do
    match duration? text with
    | some duration => total := total + duration
    | none =>
      complain call ("invalid time interval ".toList ++ literal text)
      isValid := false
  if !isValid then
    Job.put 2 ("Try '".toList ++ call.name ++ " --help' for more information.\n".toList)
    throw (.exited 1)
  Job.wait total
  pure 0

/-- The options of `timeout`. -/
def timeoutOptions : OptionSet where
  letters := "fk:s:v"
  names := [("foreground", .nothing, 'f'), ("kill-after", .required, 'k'),
    ("preserve-status", .nothing, 'p'), ("signal", .required, 's'), ("verbose", .nothing, 'v')]

/-- The signals that have names. -/
def signals : List (String × Nat) :=
  [("HUP", 1), ("INT", 2), ("QUIT", 3), ("KILL", 9), ("USR1", 10), ("SEGV", 11), ("USR2", 12),
    ("PIPE", 13), ("ALRM", 14), ("TERM", 15)]

/-- The signal that a number or a name means. -/
def signalOf? (text : ByteText) : Option Nat :=
  match Text.readDigits text with
  | some number => if number < 65 then some number else none
  | none =>
    let upper := text.map Char.toUpper
    let name := ("SIG".toList.isPrefixOf? upper).getD upper
    (signals.find? fun entry => entry.1.toList = name).map Prod.snd

/-- The name of a signal, or its number if it has none. -/
def signalText (signal : Nat) : ByteText :=
  match signals.find? fun entry => entry.2 = signal with
  | some (name, _) => name.toList
  | none => ByteText.ofNat signal

/-- The signal that no process survives. -/
def killSignal : Nat := 9

/-- Start a program, and send it a signal when a time is over. -/
def timeout (start : Start) : Utility := fun call => do
  let (chosen, operands) ← readLeadingOptions call 125 timeoutOptions
  let interval (text : ByteText) : Job Nat := do
    match duration? text with
    | some duration => pure duration
    | none => misuse call 125 ("invalid time interval ".toList ++ literal text)
  let signal ← match chosen.value? 's' with
    | none => pure 15
    | some text =>
      match signalOf? text with
      | some signal => pure signal
      | none => misuse call 125 (literal text ++ ": invalid signal".toList)
  let grace ← match chosen.value? 'k' with
    | some text => interval text
    | none => pure 0
  match operands with
  | time :: name :: arguments =>
    let limit ← interval time
    let process ← get
    let time := process.machine.clock + limit
    let alarms := if limit = 0 then []
      else (time, signal) :: if grace = 0 then [] else [(time + grace, killSignal)]
    modify fun process => { process with alarms := alarms ++ process.alarms }
    let result ← run start name arguments
    let clock := (← get).machine.clock
    modify fun after => { after with alarms := process.alarms }
    let isOver := 0 < limit && time ≤ clock
    if isOver && chosen.has 'v' then
      complain call ("sending signal ".toList ++ signalText signal ++ " to command ".toList ++
        literal name)
    match result with
    | .error error =>
      complain call (fault ("failed to run command ".toList ++ quoted name) error)
      pure (startStatus error)
    | .ok ending =>
      let isKilled := match ending with
        | .killed 9 => true
        | _ => false
      if isOver && isKilled then throw (.killed killSignal)
      else if isOver && !chosen.has 'p' then pure 124
      else
        match ending with
        | .killed signal => if isOver then pure (128 + signal) else throw (.killed signal)
        | _ => pure ending.status
  | _ =>
    Job.put 2 ("Try '".toList ++ call.name ++ " --help' for more information.\n".toList)
    pure 125

/-- Start a program that minds others less. -/
def nice (start : Start) : Utility := fun call => do
  let (chosen, operands) ← readLeadingOptions call 125 (.of "n:" [("adjustment", .required, 'n')])
  match chosen.value? 'n' with
  | some text =>
    let digits := if text.head? = some '-' || text.head? = some '+' then text.drop 1 else text
    if (Text.readDigits digits).isNone then
      fail call 125 ("invalid adjustment ".toList ++ literal text)
  | none => pure ()
  match operands with
  | [] =>
    emitLines call [['0']]
    pure 0
  | name :: arguments =>
    let error ← become start name arguments
    complain call (fault (quoted name) error)
    pure (startStatus error)

/-- Start a program that goes on without its terminal. -/
def nohup (start : Start) : Utility := fun call => do
  let (_, operands) ← readLeadingOptions call 125 (.of "" [])
  match operands with
  | [] => misuse call 125 "missing operand".toList
  | name :: arguments =>
    modify fun process => { process with ignored := 1 :: process.ignored }
    let error ← become start name arguments
    complain call (fault ("failed to run command ".toList ++ quoted name) error)
    pure (startStatus error)

/-! ### Parts of the input -/

/-- The options of `xargs`. -/
def xargsOptions : OptionSet where
  letters := "0a:d:E:e::I:i::L:l::n:oP:prs:tx"
  names := [("null", .nothing, '0'), ("arg-file", .required, 'a'), ("delimiter", .required, 'd'),
    ("eof", .optional, 'e'), ("replace", .optional, 'i'), ("max-lines", .optional, 'l'),
    ("max-args", .required, 'n'), ("max-procs", .required, 'P'), ("interactive", .nothing, 'p'),
    ("no-run-if-empty", .nothing, 'r'), ("verbose", .nothing, 't'), ("exit", .nothing, 'x'),
    ("max-chars", .required, 's')]

/-- The words of a line of input, with quotes and escapes. Nothing comes back if a quote is left
open. -/
def inputWords : Option Char → Option ByteText → ByteText → Option (List ByteText)
  | none, current, [] => some current.toList
  | some _, _, [] => none
  | none, current, '\\' :: character :: rest =>
    inputWords none (some (current.getD [] ++ [character])) rest
  | none, current, character :: rest =>
    if character = '"' || character = '\'' then
      inputWords (some character) (some (current.getD [])) rest
    else if ByteText.isSpace character then
      (inputWords none none rest).map fun words => current.toList ++ words
    else inputWords none (some (current.getD [] ++ [character])) rest
  | some mark, current, character :: rest =>
    if character = mark then inputWords none current rest
    else if character = '\n' then none
    else inputWords (some mark) (some (current.getD [] ++ [character])) rest

/-- Rows of so many items. -/
def rowsOf {α : Type} (width : Nat) : Nat → List α → List (List α)
  | 0, _ => []
  | limit + 1, items =>
    if items.isEmpty then [] else items.take width :: rowsOf width limit (items.drop width)

/-- A text with another one in the place of every mark. -/
def replaceMark (mark text : ByteText) : Nat → ByteText → ByteText
  | 0, rest => rest
  | limit + 1, rest =>
    match mark.isPrefixOf? rest with
    | some after => if mark.isEmpty then rest else text ++ replaceMark mark text limit after
    | none =>
      match rest with
      | character :: others => character :: replaceMark mark text limit others
      | [] => []

/-- Start a program for each row of arguments, and tell the status of all. -/
def runRows (start : Start) (call : Call) (isVerbose : Bool) :
    Nat → List (List ByteText) → Job Nat
  | status, [] => pure status
  | status, row :: rest => do
    match row with
    | [] => pure status
    | name :: arguments =>
      if isVerbose then Job.put 2 (Text.join ' ' row ++ ['\n'])
      match ← run start name arguments with
      | .error error =>
        complain call (fault name error)
        pure (startStatus error)
      | .ok (.exited 0) => runRows start call isVerbose status rest
      | .ok (.exited 255) =>
        complain call (name ++ ": exited with status 255; aborting".toList)
        pure 124
      | .ok (.killed signal) =>
        complain call (name ++ ": terminated by signal ".toList ++ ByteText.ofNat signal)
        pure 125
      | .ok _ => runRows start call isVerbose 123 rest

/-- Start a program with arguments from the input. -/
def xargs (start : Start) : Utility := fun call => do
  let (chosen, operands) ← readLeadingOptions call 1 xargsOptions
  let number (letter : Char) : Job (Option Nat) := do
    match chosen.value? letter with
    | none => pure none
    | some text =>
      match Text.readDigits text with
      | some number =>
        if number = 0 && letter ≠ 'P' then
          complain call ("value ".toList ++ text ++ " for -".toList ++ letter ::
            " option should be >= 1".toList)
          misuse call 1 []
        else pure (some number)
      | none =>
        complain call ("invalid number \"".toList ++ text ++ "\" for -".toList ++ letter ::
          " option".toList)
        Job.put 2 ("Try '".toList ++ call.name ++ " --help' for more information.\n".toList)
        throw (.exited 1)
  let width ← number 'n'
  let lineCount ← number 'L'
  let _ ← number 'P'
  let text ← match ← (match chosen.value? 'a' with
      | some path => Job.readPath path
      | none => Job.readAll 0) with
    | .ok text => pure text
    | .error error => fail call 1 (fault "read error".toList error)
  let mark := (chosen.value? 'I').orElse fun _ => (chosen.value? 'i').map fun mark =>
    if mark.isEmpty then "\x7b\x7d".toList else mark
  let command := if operands.isEmpty then ["echo".toList] else operands
  let separated (separator : Char) : List ByteText :=
    let pieces := Text.split separator text
    if pieces.getLast? = some [] then pieces.dropLast else pieces
  let lines := ByteText.lines text
  let separator? : Option Char := if chosen.has '0' then some '\x00'
    else (chosen.value? 'd').map fun asked =>
      match asked with
      | ['\\', 'n'] => '\n'
      | ['\\', 't'] => '\t'
      | ['\\', '0'] => '\x00'
      | character :: _ => character
      | [] => '\n'
  let failQuote (line : ByteText) : Job (List ByteText) := do
    let kind := if line.count '"' % 2 = 1 then "double" else "single"
    fail call 1 (ByteText.ofString ("unmatched " ++ kind ++
      " quote; by default quotes are special to xargs unless you use the -0 option"))
  match mark with
  | some mark =>
    let items ← match separator? with
      | some separator => pure (separated separator)
      | none => do
        let found ← lines.mapM fun line => do
          let trimmed := line.dropWhile ByteText.isBlank
          match inputWords none none trimmed with
          | some _ => pure (trimmed.filter fun character => !(['"', '\''].contains character))
          | none => do pure ((← failQuote line).flatten)
        pure (found.filter fun item => !item.isEmpty)
    runRows start call (chosen.has 't') 0 (items.map fun item =>
      command.map fun word => replaceMark mark item (word.length + 1) word)
  | none =>
    match lineCount with
    | some count =>
      let kept := lines.filter fun line => !line.all ByteText.isBlank
      let rows ← (rowsOf count (kept.length + 1) kept).mapM fun row => do
        let words ← row.mapM fun line => do
          match inputWords none none line with
          | some words => pure words
          | none => failQuote line
        pure (command ++ words.flatten)
      runRows start call (chosen.has 't') 0 rows
    | none =>
      let items ← match separator? with
        | some separator => pure (separated separator)
        | none =>
          match inputWords none none text with
          | some words => pure words
          | none => failQuote text
      let ended := match chosen.value? 'E' with
        | some mark => items.takeWhile (· ≠ mark)
        | none => items
      let rows := rowsOf (width.getD 100000) (ended.length + 1) ended
      let all := if rows.isEmpty then if chosen.has 'r' then [] else [[]] else rows
      runRows start call (chosen.has 't') 0 (all.map fun row => command ++ row)

end CodeNavigator.Utility
