/-
This file defines shells as programs. A shell reads its options, and then a script: from an argument,
from a file or from its input. Its variables begin with those of its environment. It ends with the
status of the last command, after what was kept for its end.
-/

import CodeNavigator.Shell.Execution

namespace CodeNavigator.Shell

/-! ### Variables at the start -/

/-- The search path of a shell that is given none. -/
def standardPath : ByteText :=
  "/usr/local/sbin:/usr/local/bin:/usr/sbin:/usr/bin:/sbin:/bin".toList

/-- The variables that a shell sets by itself. -/
def ownVariables (hasExtras : Bool) (parent : Nat) : List (String × ByteText) :=
  [("IFS", standardSeparators), ("OPTIND", ['1']), ("PS4", "+ ".toList),
    ("PPID", ByteText.ofNat parent)] ++
  if hasExtras then
    [("OPTERR", ['1']), ("BASH_VERSION", "5.2.15(1)-release".toList),
      ("OSTYPE", "linux-gnu".toList), ("HOSTTYPE", "x86_64".toList),
      ("MACHTYPE", "x86_64-pc-linux-gnu".toList), ("SECONDS", ['0'])]
  else [("PS1", "$ ".toList), ("PS2", "> ".toList)]

/-- The variables of an environment whose names a shell can use. -/
def importedVariables (environment : List (ByteText × ByteText)) : List Variable :=
  (environment.filter fun entry => isName entry.1).map fun (name, text) =>
    ⟨name, .text text, true, false⟩

/-- The variables that a shell starts with. -/
def firstVariables (hasExtras : Bool) (process : Process) : List Variable :=
  let path : Variable := ⟨"PATH".toList, .text standardPath, false, false⟩
  let known := (importedVariables process.environment).foldl
    (fun bindings entry => putVariable entry bindings) [path]
  (ownVariables hasExtras process.parent).foldl (fun bindings (name, text) =>
    putVariable ⟨name.toList, .text text, false, false⟩ bindings) known

/-- The directory of a process, as its environment tells it if that is true. -/
def firstDirectory (process : Process) : ByteText :=
  let told := (process.environment.find? fun entry => entry.1 = "PWD".toList).map Prod.snd
  match told with
  | some path =>
    let place := process.machine.tree.locate process.place ⟨ByteText.asString path⟩
    if path.head? = some '/' && place.toOption = some process.place then path
    else Builtin.placeName process.place
  | none => Builtin.placeName process.place

/-- How deep this shell stands inside of others. -/
def shellLevel (process : Process) : Nat :=
  let told := (process.environment.find? fun entry => entry.1 = "SHLVL".toList).map Prod.snd
  (told.bind Text.readDigits).getD 0 + 1

/-- The state of a shell at its start. -/
def Session.ofProcess (hasExtras : Bool) (name : ByteText) (process : Process) : Session :=
  let directory := firstDirectory process
  let session : Session :=
    { process := process
      hasExtras := hasExtras
      isFromFile := false
      name := name
      title := none
      line := 0
      shellNumber := process.number
      directory := directory
      parameters := []
      bindings := firstVariables hasExtras process
      functions := []
      aliases := []
      remembered := []
      documents := #[]
      status := 0
      outputStatus := 0
      partStatuses := []
      options := []
      isTested := false
      traps := process.ignored.map fun signal => (signal, [])
      children := []
      lastChild := none
      loopDepth := 0
      sourceDepth := 0
      hidden := []
      calls := []
      optionOffset := 0 }
  let placed := session.withVariable ⟨"PWD".toList, .text directory, true, false⟩
  if hasExtras then
    placed.withVariable ⟨"SHLVL".toList, .text (ByteText.ofNat (shellLevel process)), true, false⟩
  else placed

/-! ### Options -/

/-- Where the script comes from. -/
inductive Origin
  | argument
  | input
  | file

/-- Read the options of a shell, and tell where the script comes from and what is left of the
arguments. -/
def readInvocation : Nat → Origin → List ByteText → Action (Origin × List ByteText)
  | 0, origin, arguments => pure (origin, arguments)
  | limit + 1, origin, arguments =>
    match arguments with
    | ['-'] :: rest | ['-', '-'] :: rest => pure (origin, rest)
    | ('-' :: '-' :: long) :: rest => do
      if (← get).hasExtras then
        readInvocation limit origin (if long = "rcfile".toList then rest.drop 1 else rest)
      else Builtin.failOption '-'
    | (mark :: letter :: letters) :: rest => do
      if mark = '-' || mark = '+' then
        let all := letter :: letters
        let isOn := mark = '-'
        let chosen := if all.contains 'c' && isOn then Origin.argument
          else if all.contains 's' && isOn then .input else origin
        let plain := all.filter fun letter => letter ≠ 'c'
        if ← Builtin.turnLetters isOn (plain.filter fun letter => letter ≠ 'O') then
          match rest with
          | name :: others =>
            Builtin.turnNamed name isOn
            readInvocation limit chosen others
          | [] => pure (chosen, [])
        else readInvocation limit chosen (if plain.contains 'O' then rest.drop 1 else rest)
      else pure (origin, arguments)
    | _ => pure (origin, arguments)

/-! ### Scripts -/

/-- Give up, because the script cannot be had. -/
def failToStart {α : Type} (status : Nat) (message : ByteText) : Action α := do
  warn message
  setStatus status
  throw .exiting

/-- Why a script could not be opened, in the words of the shell. -/
def failToOpen {α : Type} (path : ByteText) (error : SystemError) : Action α := do
  if (← get).hasExtras then
    failToStart (if error = .noSuchFile then 127 else 126) (remark path error.description)
  else
    let reason := if error = .noSuchFile then "No such file" else error.description
    failToStart 2 ("cannot open ".toList ++ remark path reason)

/-- The script in the file that a path leads to. A directory counts as an empty script where nothing
more is known of scripts. -/
def readScript (path : ByteText) : Action ByteText := do
  let session ← get
  let process := session.process
  let opened ← ofJob (Job.readPath path)
  let found ← match opened with
    | .error .noSuchFile =>
      if session.hasExtras && !path.contains '/' then
        match Program.find process.machine.tree process.place session.searchDirectories path with
        | (other, .ok _) => ofJob (Job.readPath other)
        | _ => pure opened
      else pure opened
    | other => pure other
  match found with
  | .ok text => pure text
  | .error .isDirectory =>
    if session.hasExtras then do
      modify fun session => { session with name := path }
      failToOpen path .isDirectory
    else pure []
  | .error error => failToOpen path error

/-- Run the script that the arguments of a shell ask for. -/
def runInvocation (interpreter : Interpreter) (arguments : List ByteText) : Action Unit := do
  let (origin, operands) ← readInvocation (arguments.length + 1) .file arguments
  match origin, operands with
  | .argument, [] =>
    failToStart 2 (if (← get).hasExtras then "-c: option requires an argument".toList
      else "-c requires an argument".toList)
  | .argument, text :: rest =>
    modify fun session => { session with
      name := rest.head?.getD session.name
      parameters := rest.drop 1 }
    runText interpreter text
  | .file, path :: parameters =>
    let text ← readScript path
    modify fun session => { session with
      name := path
      parameters := parameters
      isFromFile := true }
    runText interpreter text
  | _, parameters =>
    Builtin.turn 's' true
    modify fun session => { session with parameters := parameters, isFromFile := true }
    match ← ofJob (Job.readAll 0) with
    | .ok text => runText interpreter text
    | .error _ => pure ()

/-- Run a shell, up to its end. -/
def run (hasExtras : Bool) (start : Start) (name : ByteText) (arguments : List ByteText) :
    Job Nat :=
  ExceptT.mk fun process =>
    let interpreter := Interpreter.ofStart start
    let session := Session.ofProcess hasExtras name process
    let (result, after) :=
      (conclude interpreter (runInvocation interpreter arguments)).run session
    match result with
    | .error (.ended ending) => (.error ending, after.process)
    | _ => (.ok after.status, after.process)

end CodeNavigator.Shell
