/-
This file defines the commands of a shell that act on the course of a script, on processes and on
signals, and those that run a text or a program in the place of the script.
-/

import CodeNavigator.Shell.Builtin.Basic

namespace CodeNavigator.Shell.Builtin

/-! ### The course of the script -/

/-- Set the status that the first argument asks for. -/
def takeStatus (arguments : List ByteText) : Action Unit := do
  match arguments with
  | [] => pure ()
  | argument :: _ =>
    if (← get).hasExtras then
      match argument with
      | '-' :: digits => setStatus (256 - (← number digits) % 256)
      | _ => setStatus (← number argument)
    else setStatus (← number argument)

/-- End the script. -/
def exit : Builtin := fun _ arguments => do
  if (← get).hasExtras then
    tryCatch (takeStatus arguments) fun _ => pure ()
  else takeStatus arguments
  throw .exiting

/-- End the function, or the script that was taken in. -/
def leaveFunction : Builtin := fun _ arguments => do
  let session ← get
  if session.hasExtras && session.hidden.isEmpty && session.sourceDepth = 0 then
    complain 2 "can only \x60return' from a function or sourced script".toList
  else
    takeStatus arguments
    throw .returning

/-- Leave as many loops as asked for, or as many as there are. Outside of loops nothing happens. -/
def leaveLoops (leaving : Nat → Leaving) : Builtin := fun _ arguments => do
  let levels ← match arguments with
    | [] => pure 1
    | argument :: _ => number argument
  if levels = 0 then failNumber (arguments.head?.getD [])
  let depth := (← get).loopDepth
  setStatus 0
  if depth = 0 && (← get).hasExtras then
    warn "only meaningful in a \x60for', \x60while', or \x60until' loop".toList
  if 0 < depth then throw (leaving (min levels depth))

def leaveLoop : Builtin :=
  leaveLoops .breaking

def nextRound : Builtin :=
  leaveLoops .continuing

/-! ### Other texts -/

/-- Run the arguments as a script. -/
def eval : Builtin := fun interpreter arguments => do
  let text := Text.join ' ' (← operands arguments)
  if text.isEmpty then setStatus 0 else runText interpreter text

/-- The path of a script that is taken in: a path as it is, any other name from the search path. -/
def sourcePath (name : ByteText) : Action (Option ByteText) := do
  let session ← get
  let process := session.process
  let isReadable (path : ByteText) : Bool :=
    match process.machine.tree.resolve process.place ⟨ByteText.asString path⟩ with
    | .ok (.file _ _) => true
    | _ => false
  if name.contains '/' then pure (some name)
  else
    let candidates := session.searchDirectories.map fun directory =>
      Program.candidate directory name
    let all := if session.hasExtras then candidates ++ [name] else candidates
    pure (all.find? isReadable)

/-- Do something that a return leaves. -/
def returnable (body : Action Unit) : Action Unit :=
  tryCatch body fun
    | .returning => pure ()
    | leaving => throw leaving

/-- Run the script in a file as part of this one. -/
def includeScript : Builtin := fun interpreter arguments => do
  match ← operands arguments with
  | [] =>
    if (← get).hasExtras then complain 2 "filename argument required".toList else setStatus 0
  | name :: parameters =>
    match ← sourcePath name with
    | none =>
      if (← get).hasExtras then complain 1 (remark name "No such file or directory")
      else fail (remark name "not found")
    | some path =>
      match ← ofJob (Job.readPath path) with
      | .error error =>
        if (← get).hasExtras then complain 1 (remark path error.description)
        else
          let reason := if error = .noSuchFile then "No such file" else error.description
          fail ("cannot open ".toList ++ remark path reason)
      | .ok text =>
        let before ← get
        let replacesParameters := before.hasExtras && !parameters.isEmpty
        afterwards (fun _ after =>
            { after with
              sourceDepth := before.sourceDepth
              parameters := if replacesParameters then before.parameters else after.parameters }) do
          set { before with
            sourceDepth := before.sourceDepth + 1
            parameters := if replacesParameters then parameters else before.parameters }
          returnable (runText interpreter text)

/-! ### Programs in the place of the shell -/

/-- Be a program from now on, up to its end. -/
def become (interpreter : Interpreter) (name : ByteText) (arguments : List ByteText) :
    Action Unit := do
  let session ← get
  match (session.findProgram session.searchDirectories name).2 with
  | .ok program =>
    modify Session.prepared
    let status ← ofJob (interpreter.start program arguments)
    throw (.ended (.exited status))
  | .error error =>
    let (reason, status) := startFailure session.hasExtras (name.contains '/') error
    let shown := if session.hasExtras && status = 127 then "not found" else reason
    complain status (remark name shown)
    throw .exiting

/-- Let a program take the place of the shell. Without one only the redirections stay. -/
def exec : Builtin := fun interpreter arguments => do
  let hasExtras := (← get).hasExtras
  let (options, operands) ← options (if hasExtras then "cla:" else "") arguments
  match operands with
  | [] => setStatus 0
  | name :: rest =>
    if has 'c' options then modify fun session =>
      { session with bindings := session.bindings.filter fun entry => !entry.isExported }
    become interpreter name rest

/-! ### Signals -/

/-- The signal that a number or a name means. -/
def signal? (hasExtras mayBeEnd : Bool) (name : ByteText) : Option Nat :=
  match Text.readDigits name with
  | some value => if value < 65 then some value else none
  | none =>
    let upper := name.map Char.toUpper
    let plain := if hasExtras then ("SIG".toList.isPrefixOf? upper).getD upper else upper
    if mayBeEnd && plain = "EXIT".toList then some 0
    else (signalNames.find? fun entry => entry.1.toList = plain).map Prod.snd

/-- The name of a signal. -/
def signalName (signal : Nat) : ByteText :=
  if signal = 0 then "EXIT".toList
  else
    match signalNames.find? fun entry => entry.2 = signal with
    | some (name, _) => name.toList
    | none => ByteText.ofNat signal

/-- List the scripts that are kept for signals and for the end. -/
def listTraps : Action Unit := do
  let session ← get
  let ordered := session.traps.mergeSort fun left right => left.1 ≤ right.1
  let title (signal : Nat) : ByteText :=
    if session.hasExtras && 0 < signal then "SIG".toList ++ signalName signal else signalName signal
  writeOutput (ByteText.unlines (ordered.map fun (signal, text) =>
    "trap -- ".toList ++ quoted text ++ ' ' :: title signal))

/-- Keep a script for some signals, or none. -/
def keepFor (script : Option ByteText) : List ByteText → Action Unit
  | [] => setStatus 0
  | name :: rest => do
    let session ← get
    match signal? session.hasExtras true name with
    | some signal =>
      let others := session.traps.filter fun entry => entry.1 ≠ signal
      set { session with traps := script.toList.map (fun text => (signal, text)) ++ others }
      keepFor script rest
    | none =>
      if session.hasExtras then
        if name = "ERR".toList || name = "DEBUG".toList || name = "RETURN".toList then
          keepFor script rest
        else complain 1 (remark name "invalid signal specification")
      else
        write 2 ("trap: ".toList ++ remark name "bad trap" ++ ['\n'])
        setStatus 1

/-- Keep a script for signals or for the end, or forget it. -/
def trap : Builtin := fun _ arguments => do
  let hasExtras := (← get).hasExtras
  let (_, operands) ← options (if hasExtras then "lp" else "") arguments
  match operands with
  | [] => listTraps
  | [single] => keepFor none [single]
  | first :: rest =>
    if (Text.readDigits first).isSome then keepFor none (first :: rest)
    else keepFor (if first = ['-'] then none else some first) rest

/-- Take back what some processes have written into pipes after a time. -/
def withoutLaterOutput (first last time : Nat) (pipe : Pipe) : Pipe :=
  let kept := pipe.written.filter fun part =>
    part.time ≤ time || part.writer < first || last < part.writer
  { pipe with
    written := kept
    size := kept.foldl (fun size part => size + part.text.length) pipe.unread.length }

/-- Send a signal to a process in the background. One that has not come to its end yet ends, and what
it has done since then is taken back. -/
def strike (signal : Nat) (target : Child) : Action Unit :=
  modify fun session =>
    let machine := session.process.machine
    if machine.clock < target.finish && !harmlessSignals.contains signal then
      let pipes := machine.pipes.map
        (withoutLaterOutput target.number target.last machine.clock)
      { session with
        process := { session.process with machine := { machine with pipes := pipes } }
        children := session.children.map fun child =>
          if child.number = target.number then
            { child with ending := .killed signal, finish := machine.clock }
          else child }
    else session

/-- Whether a number is that of a shell at work. -/
def isAtWork (session : Session) (number : Nat) : Bool :=
  number = session.process.number || number = session.shellNumber ||
    number = session.process.parent

/-- Send a signal to a process, and tell whether there is one. -/
def send (signal number : Nat) : Action Bool := do
  let session ← get
  match session.children.find? fun child => child.number = number with
  | some child =>
    strike signal child
    pure (!child.isNoticed)
  | none =>
    let target := if number = 0 then session.process.number else number
    if isAtWork session target then
      if signal ≠ 0 then
        sendTo target signal
      pure true
    else pure false

/-- Complain about a text that should mean a job. -/
def failJob {α : Type} (text : ByteText) (reason : String) : Action α := do
  if (← get).hasExtras then
    complain (if (← get).title = some "wait".toList then 127 else 1)
      ((if text.isEmpty then "current".toList else text) ++ ": no such job".toList)
    throw .failing
  else fail (ByteText.ofString reason)

/-- The job that a text behind a percent sign means. -/
def jobOf (text : ByteText) : Action Child := do
  let children := (← get).children
  let found (child : Option Child) (reason : String) : Action Child :=
    match child with
    | some child => pure child
    | none => failJob text reason
  match text with
  | [] | ['%'] | ['%', '%'] | ['%', '+'] => found children.head? "No current job"
  | ['%', '-'] => found (children.drop 1).head? "No previous job"
  | _ =>
    let slot := Text.readDigits (text.drop 1)
    found (children.find? fun child => some child.slot = slot)
      ("No such job: " ++ ByteText.asString text)

/-- The process that a text means: a number, or a job. -/
def processOf (text : ByteText) : Action Nat := do
  match text with
  | '%' :: _ => pure (← jobOf text).number
  | '-' :: digits => number digits
  | digits => number digits

/-- Send a signal to some processes. A job has no group of its own that a signal could reach, unless
the shell has extras. -/
def sendAll (signal : Nat) : List ByteText → Action Unit
  | [] => pure ()
  | target :: rest => do
    let number ← processOf target
    let isJob := target.head? = some '%'
    let isSent ← if isJob && !(← get).hasExtras then pure false else send signal number
    if !isSent then
      if (← get).hasExtras then
        complain 1 ('(' :: target ++ ") - No such process".toList)
      else complain 1 "No such process\n".toList
    sendAll signal rest

/-- List the signals, or name the one that a status means. -/
def listSignals (arguments : List ByteText) : Action Unit := do
  match arguments with
  | [] =>
    writeOutput ("0\n".toList ++ ByteText.unlines (signalNames.map fun entry => entry.1.toList))
  | argument :: _ =>
    let hasExtras := (← get).hasExtras
    let named := if hasExtras && (Text.readDigits argument).isNone then signal? true true argument
      else none
    match named with
    | some signal => return ← writeOutput (ByteText.ofNat signal ++ ['\n'])
    | none => pure ()
    let value ← number argument
    let signal := if 128 < value then value - 128 else value
    if signalNames.any fun entry => entry.2 = signal then writeOutput (signalName signal ++ ['\n'])
    else fail ("invalid signal number or exit status: ".toList ++ argument)

def killUsage : ByteText :=
  ("Usage: kill [-s sigspec | -signum | -sigspec] [pid | job]... or\n" ++
    "kill -l [exitstatus]").toList

/-- Send a signal. -/
def kill : Builtin := fun _ arguments => do
  let hasExtras := (← get).hasExtras
  let aimed (signal : Nat) (targets : List ByteText) : Action Unit := do
    if targets.isEmpty then fail killUsage
    setStatus 0
    sendAll signal targets
  match arguments with
  | ['-', '-'] :: targets => aimed 15 targets
  | ('-' :: name) :: rest =>
    match signal? hasExtras true name with
    | some signal => aimed signal (if rest.head? = some ['-', '-'] then rest.drop 1 else rest)
    | none =>
      let (options, targets) ← options "ls:" arguments
      if has 'l' options then listSignals targets
      else
        match (options.find? fun option => option.1 = 's').map Prod.snd with
        | some chosen =>
          match signal? hasExtras true chosen with
          | some signal => aimed signal targets
          | none => fail ("invalid signal number or name: ".toList ++ chosen)
        | none => fail killUsage
  | targets => aimed 15 targets

/-! ### Processes in the background -/

/-- Wait until a time, or until a signal comes, and tell which signal that was. -/
def waitUntil (interpreter : Interpreter) (time : Nat) : Action (Option Nat) := do
  let process := (← get).process
  let moveTo (time : Nat) : Action Unit :=
    ofJob (Job.changeMachine fun machine => { machine with clock := max machine.clock time })
  let sent := (process.machine.signals.filter fun sending =>
    sending.target = process.number && sending.time ≤ time).map fun sending =>
      (sending.time, sending.signal)
  match Job.firstAlarm? { process with alarms := sent ++ process.alarms } time with
  | some (alarm, signal) =>
    moveTo alarm
    meetSignals interpreter
    pure (some signal)
  | none =>
    moveTo time
    pure none

/-- Notice that jobs have come to their end, and take them as waited for if they were. -/
def noticeJobs (isWaitedFor : Child → Bool) : Action Unit := do
  let before ← get
  let after := before.noticed
  let isNew := (before.children.filter Child.isNoticed).length <
    (after.children.filter Child.isNoticed).length
  let children := after.children.map fun child =>
    { child with isWaitedFor := child.isWaitedFor || isWaitedFor child }
  set { after with children := children }
  if isNew && after.heeds childSignal then sendSelf childSignal

/-- Wait for one process, and take its status. What ended it is told if that is news. -/
def waitForOne (interpreter : Interpreter) (text : ByteText) : Action Unit := do
  let wanted ← processOf text
  match (← get).children.find? fun child => child.number = wanted with
  | some child =>
    match ← waitUntil interpreter child.finish with
    | some signal => setStatus (128 + signal)
    | none =>
      noticeJobs fun (other : Child) => decide (other.number = wanted)
      if !child.isNoticed && !(← get).hasExtras then reportEnding child.ending
      setStatus child.ending.status
  | none =>
    if (← get).hasExtras then
      complain 127 ("pid ".toList ++ text ++ " is not a child of this shell".toList)
    else setStatus 127

/-- Wait for all processes. -/
def waitForAll (interpreter : Interpreter) : Action Unit := do
  let session ← get
  let time := session.children.foldl (fun time child => max time child.finish) 0
  match ← waitUntil interpreter time with
  | some signal => setStatus (128 + signal)
  | none =>
    noticeJobs fun _ => true
    if session.hasExtras then modify fun session => { session with children := [] }
    setStatus 0

/-- Wait for the next process that comes to its end. -/
def waitForNext (interpreter : Interpreter) : Action Unit := do
  let waiting := (← get).children.filter fun child => !child.isWaitedFor
  match (waiting.mergeSort fun left right => left.finish ≤ right.finish).head? with
  | none => setStatus 127
  | some child =>
    match ← waitUntil interpreter child.finish with
    | some signal => setStatus (128 + signal)
    | none =>
      noticeJobs fun other => other.number = child.number
      setStatus child.ending.status

/-- Wait for processes. -/
def wait : Builtin := fun interpreter arguments => do
  let (options, targets) ← options (if (← get).hasExtras then "nfp:" else "") arguments
  if has 'n' options then waitForNext interpreter
  else if targets.isEmpty then waitForAll interpreter
  else
    for target in targets do
      waitForOne interpreter target
  meetSignals interpreter

/-- The state of a job, in words. -/
def stateText (child : Child) : String :=
  if !child.isNoticed then "Running"
  else
    match child.ending with
    | .exited 0 => "Done"
    | .exited status => "Done(" ++ toString status ++ ")"
    | .killed signal =>
      ((signalTexts.find? fun entry => entry.1 = signal).map Prod.snd).getD
        (if signal = 2 then "Interrupt" else "Broken pipe")
    | .exhausted => "Running"

/-- The line for a job, with a mark on the last one and on the one before it. -/
def jobLine (children : List Child) (child : Child) : ByteText :=
  let isAt (index : Nat) : Bool := (children[index]?).any fun other => other.number = child.number
  let mark := if isAt 0 then "+ " else if isAt 1 then "- " else "  "
  ByteText.padRight 33
    (ByteText.ofString ("[" ++ toString child.slot ++ "] " ++ mark ++ stateText child)) ++
    (List.replicate (child.partCount - 1) " | ".toList).flatten

/-- The lines for some jobs. One that has come to its end is forgotten once its line is there. -/
def jobLines (line : List Child → Child → ByteText) :
    List Child → List Child → List ByteText × List Child
  | children, [] => ([], children)
  | children, child :: rest =>
    let left := children.filter fun other => other.number ≠ child.number || !child.isNoticed
    let (lines, kept) := jobLines line left rest
    (line children child :: lines, kept)

/-- List jobs, the last one first. -/
def jobs : Builtin := fun _ arguments => do
  let (options, operands) ← options (if (← get).hasExtras then "lnprsx" else "lp") arguments
  if operands.isEmpty then noticeJobs fun _ => false
  let asked ← if operands.isEmpty then pure (← get).children else operands.mapM jobOf
  let session ← get
  let line := if has 'p' options then fun _ (child : Child) => ByteText.ofNat child.number
    else jobLine
  let (lines, kept) := jobLines line session.children asked
  set { session with children := kept }
  writeOutput (ByteText.unlines lines)

/-- Bring a job into the foreground, which is not possible without a terminal. -/
def foreground : Builtin := fun _ arguments => do
  let text := arguments.head?.getD []
  if (← get).hasExtras then complain 1 "no job control".toList
  else
    let _ ← jobOf text
    let shown := if text.isEmpty then "(null)".toList else text
    fail ("job ".toList ++ shown ++ " not created under job control".toList)

end CodeNavigator.Shell.Builtin
