/-
This file defines what the commands of a shell need besides its state: a way to run a script and a
way to start a program. From these follow the larger steps. A text is read and run line by line, so
that a fault in it shows only when it is reached. Signals are met between commands. A process of its
own runs on a copy of the state, up to its end and to the script that was kept for it.
-/

import CodeNavigator.Shell.CommandReader
import CodeNavigator.Shell.Expansion

namespace CodeNavigator.Shell

/-- How scripts are run and programs are started. -/
structure Interpreter where
  start : Start
  evaluate : Script → Action Unit

/-! ### Texts -/

/-- How far a text has been read: what is left of it, and the number of its next line. -/
structure Position where
  rest : ByteText
  line : Nat

/-- The option by which short names have a meaning in a shell with extras. -/
def aliasLetter : Char := '\x11'

/-- What reading starts from. -/
def Session.source (session : Session) (position : Position) : Source where
  rest := position.rest
  line := position.line
  hasExtras := session.hasExtras
  pushedBack := none
  awaited := []
  documents := session.documents
  aliases := if session.hasExtras && !session.hasOption aliasLetter then [] else session.aliases
  aliasesInUse := []
  aliasNextBelow := none

/-- How a shell with extras words a fault. -/
def extraMessages (fault : Fault) (line : ByteText) : List ByteText :=
  let quoted (text : ByteText) : ByteText := '\x60' :: text ++ ['\'']
  let unmatched (mark : Char) : List ByteText :=
    ["unexpected EOF while looking for matching ".toList ++ quoted [mark]]
  match fault with
  | .unexpected "end of file" _ => ["syntax error: unexpected end of file".toList]
  | .unexpected found _ =>
    ["syntax error near unexpected token ".toList ++ quoted found.toList, quoted line]
  | .openQuotes mark => unmatched mark
  | .openBrace => unmatched '\x7d'
  | .openArithmetic => unmatched ')'
  | .openBackquotes => unmatched '\x60'
  | .badLoopVariable name | .badFunctionName name => [quoted name ++ ": not a valid identifier".toList]
  | .tooDeep => [fault.message.toList]

/-- Complain about a fault in a text that was read from some position on. -/
def failToRead (fault : Fault) (start : Position) (line : Nat) : Action Unit := do
  modify fun session => { session with line := line }
  let session ← get
  if session.hasExtras then
    let origin := if session.isFromFile then session.name
      else session.name ++ ": ".toList ++ session.title.getD "-c".toList
    for message in extraMessages fault (start.rest.takeWhile (· ≠ '\n')) do
      write 2 (origin ++ ByteText.ofString (": line " ++ toString line ++ ": ") ++ message ++ ['\n'])
  else warn (ByteText.ofString ("Syntax error: " ++ fault.message))
  setStatus 2
  throw (if session.hasExtras then .exiting else .failing)

/-- Run the commands of a line. What fails in a shell with extras ends no more than the line. -/
def runLine (interpreter : Interpreter) (script : Script) : Action Unit := do
  let session ← get
  if session.hasExtras && session.shellNumber = session.process.number then
    tryCatch (interpreter.evaluate script) fun
      | .failing => pure ()
      | leaving => throw leaving
  else interpreter.evaluate script

/-- Read the commands of the next line. -/
def readNext (position : Position) : Action (Option (Script × Position)) := do
  let session ← get
  let (result, source) := readLine.run (session.source position)
  set { session with documents := source.documents }
  match result with
  | .ok (some script) => pure (some (script, ⟨source.rest, source.line⟩))
  | .ok none => pure none
  | .error fault =>
    failToRead fault position source.line
    pure none

/-- Run what is left of a text, at most so many lines. -/
def runLines (interpreter : Interpreter) : Nat → Position → Action Unit
  | 0, _ => pure ()
  | limit + 1, position => do
    match ← readNext position with
    | none => pure ()
    | some (script, after) =>
      let session ← get
      if session.hasOption 'v' && session.isFromFile then
        write 2 (position.rest.take (position.rest.length - after.rest.length))
      runLine interpreter script
      runLines interpreter limit after

/-- Run a text as a script. The status is that of its last command, and that of what came before as
long as there is none. -/
def goOnWith (interpreter : Interpreter) (text : ByteText) : Action Unit :=
  runLines interpreter (text.length + 1) ⟨text, 1⟩

/-- Run a text as a script. The status is that of its last command. -/
def runText (interpreter : Interpreter) (text : ByteText) : Action Unit := do
  setStatus 0
  goOnWith interpreter text

/-! ### Signals -/

/-- The signals that have names. -/
def signalNames : List (String × Nat) :=
  [("HUP", 1), ("INT", 2), ("QUIT", 3), ("ILL", 4), ("TRAP", 5), ("ABRT", 6), ("BUS", 7),
    ("FPE", 8), ("KILL", 9), ("USR1", 10), ("SEGV", 11), ("USR2", 12), ("PIPE", 13), ("ALRM", 14),
    ("TERM", 15), ("STKFLT", 16), ("CHLD", 17), ("CONT", 18), ("STOP", 19), ("TSTP", 20),
    ("TTIN", 21), ("TTOU", 22), ("URG", 23), ("XCPU", 24), ("XFSZ", 25), ("VTALRM", 26),
    ("PROF", 27), ("WINCH", 28), ("POLL", 29), ("PWR", 30), ("SYS", 31)]

/-- What a shell says when a signal has ended one of its processes. -/
def signalTexts : List (Nat × String) :=
  [(1, "Hangup"), (3, "Quit"), (4, "Illegal instruction"), (5, "Trace/breakpoint trap"),
    (6, "Aborted"), (7, "Bus error"), (8, "Floating point exception"), (9, "Killed"),
    (10, "User defined signal 1"), (11, "Segmentation fault"), (12, "User defined signal 2"),
    (14, "Alarm clock"), (15, "Terminated"), (16, "Stack fault"), (24, "CPU time limit exceeded"),
    (25, "File size limit exceeded"), (26, "Virtual timer expired"), (27, "Profiling timer expired"),
    (29, "I/O possible"), (30, "Power failure"), (31, "Bad system call")]

/-- The signals that end no process. -/
def harmlessSignals : List Nat :=
  [0, 17, 18, 19, 20, 21, 22, 23, 28]

/-- The signals that no process can meet in its own way. -/
def relentlessSignals : List Nat :=
  [9, 19]

/-- Run a text on the occasion of something else, whose status stays. -/
def runAside (interpreter : Interpreter) (text : ByteText) : Action Unit := do
  let status := (← get).status
  goOnWith interpreter text
  setStatus status

/-- Meet a signal: run the script that was kept for it, or end. -/
def meetSignal (interpreter : Interpreter) (signal : Nat) : Action Unit := do
  let session ← get
  match session.traps.find? fun entry => entry.1 = signal with
  | some (_, text) =>
    if relentlessSignals.contains signal then throw (.ended (.killed signal))
    else if !text.isEmpty then runAside interpreter text
  | none =>
    if !harmlessSignals.contains signal && !session.process.ignored.contains signal then
      throw (.ended (.killed signal))

/-- Send a signal to a process. -/
def sendTo (number signal : Nat) : Action Unit :=
  ofJob (Job.changeMachine fun machine =>
    { machine with signals := ⟨number, signal, machine.clock⟩ :: machine.signals })

/-- Send a signal to the shell itself. -/
def sendSelf (signal : Nat) : Action Unit := do
  sendTo (← get).process.number signal

/-- Let the alarms whose time has come send their signals. -/
def raiseAlarms : Action Unit := do
  let session ← get
  let time := session.process.machine.clock
  let (due, later) := session.process.alarms.partition fun alarm => alarm.1 ≤ time
  unless due.isEmpty do
    set { session with process := { session.process with alarms := later } }
    for (_, signal) in due do
      sendSelf signal

/-- Meet the signals that were sent to the shell. However often one was sent, it is met once. -/
def meetSignals (interpreter : Interpreter) : Action Unit := do
  raiseAlarms
  let session ← get
  let machine := session.process.machine
  let isMet (sending : Sending) : Bool :=
    sending.target = session.process.number && sending.time ≤ machine.clock
  let (met, later) := machine.signals.partition isMet
  unless met.isEmpty do
    ofJob (Job.changeMachine fun machine => { machine with signals := later })
    for signal in ((met.map Sending.signal).mergeSort fun left right => left ≤ right).eraseDups do
      meetSignal interpreter signal

/-! ### Jobs -/

/-- The signal that tells of the end of a process. -/
def childSignal : Nat := 17

/-- The signals for which scripts are kept. -/
def Session.heeds (session : Session) (signal : Nat) : Bool :=
  session.traps.any fun entry => entry.1 = signal

/-- Notice the end of the jobs that have come to it. -/
def Session.noticed (session : Session) : Session :=
  let clock := session.process.machine.clock
  { session with
    children := session.children.map fun child =>
      { child with isNoticed := child.isNoticed || child.finish ≤ clock } }

/-- Notice the end of a process that was waited for, and of all others that have come to it. -/
def noticeEnd : Action Unit := do
  modify Session.noticed
  if (← get).heeds childSignal then sendSelf childSignal

/-- Whether a job is of no use any more. -/
def Child.isSpent (child : Child) : Bool :=
  child.isNoticed && child.isWaitedFor

/-- Find the number for the next process, and forget the job that it takes the place of. -/
def takeSlot : Action Nat := do
  let session ← get
  let isFree (slot : Nat) : Bool :=
    session.children.all fun child => child.slot ≠ slot || child.isSpent
  let slot := (((List.range (session.children.length + 1)).map (· + 1)).find? isFree).getD 1
  set { session with children := session.children.filter fun child => child.slot ≠ slot }
  pure slot

/-! ### Processes -/

/-- Run the script that was kept for the end. Its own end does not change the status, unless it asks
for that. -/
def sayFarewell (interpreter : Interpreter) : Action Unit := do
  let session ← get
  match session.traps.find? fun entry => entry.1 = 0 with
  | none => pure ()
  | some (_, text) =>
    set { session with traps := session.traps.filter fun entry => entry.1 ≠ 0 }
    let restore : Action Unit := setStatus session.status
    tryCatch (do
        goOnWith interpreter text
        restore)
      fun
        | .ended ending => throw (.ended ending)
        | .exiting => pure ()
        | .failing => pure ()
        | _ => restore

/-- Do something up to its end, wherever that is, and what was kept for the end. -/
def conclude (interpreter : Interpreter) (body : Action Unit) : Action Unit := do
  tryCatch body fun
    | .ended ending => throw (.ended ending)
    | _ => pure ()
  sayFarewell interpreter

/-- The state of a process of its own at its start: only what was to be ignored is still met. -/
def Session.child (session : Session) (number : Nat) : Session :=
  { session with
    process := { session.process with number := number, parent := session.process.number }
    traps := session.traps.filter fun entry => entry.2.isEmpty
    children := []
    loopDepth := 0 }

/-- Do something as a process of its own, and tell its number and its end. -/
def asChild (interpreter : Interpreter) (body : Action Unit) : Action (Nat × Ending) :=
  ExceptT.mk fun session =>
    let machine := session.process.machine
    let number := machine.lastNumber + 1
    let forked := { session.process with machine := { machine with lastNumber := number } }
    let child := ({ session with process := forked } : Session).child number
    let (result, after) := (conclude interpreter body).run child
    let kept := { session with
      process := { session.process with machine := after.process.machine } }
    match result with
    | .error (.ended .exhausted) => (.error (.ended .exhausted), kept)
    | .error (.ended ending) => (.ok (number, ending), kept)
    | _ => (.ok (number, .exited (after.status % 256)), kept)

/-- Whether a signal that has come ends the shell at once. -/
def Session.isDoomed (session : Session) : Bool :=
  session.process.alarms.any fun alarm =>
    alarm.1 ≤ session.process.machine.clock && !session.heeds alarm.2 &&
      !harmlessSignals.contains alarm.2 && !session.process.ignored.contains alarm.2

/-- Tell about a process that a signal has ended. -/
def reportEnding (ending : Ending) : Action Unit := do
  if (← get).isDoomed then raiseAlarms
  else match ending with
  | .killed signal =>
    match signalTexts.find? fun entry => entry.1 = signal with
    | some (_, text) => write 2 (ByteText.ofString (text ++ "\n"))
    | none => pure ()
  | _ => pure ()

/-- Do something as a process of its own, and wait for its end. -/
def waitFor (interpreter : Interpreter) (body : Action Unit) : Action Unit := do
  let _ ← takeSlot
  let (_, ending) ← asChild interpreter body
  noticeEnd
  reportEnding ending
  setStatus ending.status

/-- Let a descriptor stand for an open file. -/
def attach (descriptor index : Nat) : Action Unit :=
  ofJob (Job.attach descriptor index)

/-- Run a script as a process of its own, and take what it writes. -/
def capture (interpreter : Interpreter) (script : Script) : Action ByteText := do
  let _ ← takeSlot
  let (source, sink) ← ofJob Job.makePipe
  let (_, ending) ← asChild interpreter do
    attach 1 sink
    interpreter.evaluate script
  noticeEnd
  reportEnding ending
  modify fun session => { session with status := ending.status, outputStatus := ending.status }
  let machine := (← get).process.machine
  match machine.files[source]? with
  | some file =>
    match ← ofJob (Job.remaining file) with
    | .ok text =>
      ofJob (Job.consume source file text text.length)
      pure text
    | .error _ => pure []
  | none => pure []

/-- The process of a program that the shell starts sees the exported variables and ignores what the
shell is told to ignore. -/
def Session.prepared (session : Session) : Session :=
  let ignored := (session.traps.filter fun entry => entry.2.isEmpty && entry.1 ≠ 0).map Prod.fst
  { session with
    process := { session.process with
      environment := session.environment
      ignored := ignored ++ session.process.ignored } }

/-- Start a program as a process of its own, and wait for its end. -/
def launch (interpreter : Interpreter) (program : Program) (arguments : List ByteText) :
    Action Unit := do
  let ignored := (← get).process.ignored
  let _ ← takeSlot
  modify Session.prepared
  pass startDuration
  let (_, ending) ← ofJob (Job.fork (interpreter.start program arguments))
  modify fun session => { session with process := { session.process with ignored := ignored } }
  noticeEnd
  reportEnding ending
  setStatus ending.status

/-- The directories in which a shell looks for names. -/
def Session.searchDirectories (session : Session) : List ByteText :=
  match session.value? "PATH".toList with
  | some path => Text.split ':' path
  | none => []

/-- The program that a name or a path stands for, and the path that it was found at. A file without
an interpreter is a script for the shell itself. -/
def Session.findProgram (session : Session) (directories : List ByteText) (name : ByteText) :
    ByteText × Except SystemError Program :=
  let process := session.process
  match Program.find process.machine.tree process.place directories name with
  | (path, .error .cannotExecute) =>
    let shell := if session.hasExtras then "bash" else "sh"
    (path, .ok ⟨shell, name, [path]⟩)
  | found => found

/-- Why a program cannot be started, in the words of the shell, and the status for it. -/
def startFailure (hasExtras hasSlash : Bool) (error : SystemError) : String × Nat :=
  match error with
  | .noSuchFile =>
    (if !hasExtras then "not found"
      else if hasSlash then error.description else "command not found", 127)
  | .notDirectory => (if hasExtras then error.description else "not found", if hasExtras then 126 else 127)
  | .tooManyLinks | .nameTooLong => (error.description, if hasExtras then 126 else 127)
  | other => (other.description, if hasExtras || hasSlash then 126 else 127)

end CodeNavigator.Shell
