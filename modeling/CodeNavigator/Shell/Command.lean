/-
This file runs simple commands. The words are expanded, the descriptors are led elsewhere, and the
assignments take effect: for good if there is no command or a special one, and only for the command
otherwise. What the command is called for is a function, a command of the shell or a program.
-/

import CodeNavigator.Shell.Assigning
import CodeNavigator.Shell.Builtin.Table
import CodeNavigator.Shell.Redirecting

namespace CodeNavigator.Shell

/-! ### Words -/

/-- The commands whose arguments may be assignments. -/
def takesAssignments (hasExtras : Bool) (name : ByteText) : Bool :=
  (["alias", "export", "local", "readonly"] ++
    if hasExtras then ["declare", "typeset"] else []).any fun known => known.toList = name

/-- The text of an argument that is an assignment. -/
def expandDeclared (interpreter : Interpreter) (word : Word) : Action (Option ByteText) := do
  match assignment? (← get).hasExtras word with
  | some (.text name none isAppending value) =>
    let text ← expandValue (capture interpreter) value
    pure (some (name ++ (if isAppending then "+=" else "=").toList ++ text))
  | _ => pure none

/-- Expand the words of a command. The arguments of a command that takes assignments are not divided
if they are assignments. -/
def expandWords (interpreter : Interpreter) : Option Bool → List Word → Action (List ByteText)
  | _, [] => pure []
  | declares?, word :: rest => do
    let found ← match declares? with
      | some true =>
        match ← expandDeclared interpreter word with
        | some text => pure [text]
        | none => expandWord interpreter word
      | _ => expandWord interpreter word
    let hasExtras := (← get).hasExtras
    let next := match declares?, found with
      | some declares, _ => some declares
      | none, [] => none
      | none, name :: _ =>
        if name = "command".toList then none else some (takesAssignments hasExtras name)
    pure (found ++ (← expandWords interpreter next rest))

/-! ### Commands -/

/-- What is asked for: the words without what stands before the command, whether functions count, and
whether the standard search path is asked for. -/
structure Order where
  words : List ByteText
  heedsFunctions : Bool
  isGuarded : Bool
  usesStandardPath : Bool

/-- The order that some words give. Behind `command` functions do not count, and failures end
nothing. -/
def Order.ofWords (hasExtras : Bool) : Nat → Order → Order
  | 0, order => order
  | limit + 1, order =>
    match order.words with
    | name :: rest =>
      if name = "command".toList then
        let after (rest : List ByteText) : List ByteText :=
          if rest.head? = some ['-', '-'] then rest.drop 1 else rest
        match rest with
        | [] => order
        | ['-', 'p'] :: others =>
          ofWords hasExtras limit ⟨after others, false, true, true⟩
        | first :: _ =>
          if Builtin.isOption first then order
          else ofWords hasExtras limit ⟨after rest, false, true, order.usesStandardPath⟩
      else if hasExtras && name = "builtin".toList && !rest.isEmpty then
        ofWords hasExtras limit ⟨rest, false, true, order.usesStandardPath⟩
      else order
    | [] => order

/-- The order that the words of a command give. -/
def orderOf (session : Session) (words : List ByteText) : Order :=
  let order : Order := ⟨words, true, session.hasExtras, false⟩
  let isReplaced := session.functions.any fun entry => entry.1 = "command".toList
  if isReplaced then order else Order.ofWords session.hasExtras (words.length + 1) order

/-! ### Tracing -/

/-- Whether a character makes a shell with extras quote a word that it shows. -/
def isQuotedWhenShown (character : Char) : Bool :=
  !character.isAlphanum && !("%+,-./:=@_^".toList.contains character)

/-- A word as it is shown before its command runs. -/
def shownWord (hasExtras : Bool) (word : ByteText) : ByteText :=
  if !hasExtras then word
  else if word.isEmpty then ['\'', '\'']
  else if word.any isQuotedWhenShown then
    '\'' :: (word.flatMap fun character =>
      if character = '\'' then "'\\''".toList else [character]) ++ ['\'']
  else word

/-- What stands before a command that is shown. -/
def shownLead (session : Session) : ByteText :=
  (session.value? "PS4".toList).getD "+ ".toList

/-- Show a command to an open file, with its assignments, if that is asked for. -/
def trace (errors : Option Nat) (assignments words : List ByteText) : Action Unit := do
  let session ← get
  if session.hasOption 'x' && !(assignments.isEmpty && words.isEmpty) then
    let lead := shownLead session
    let line (words : List ByteText) : ByteText := lead ++ Text.join ' ' words ++ ['\n']
    let shownWords := words.map (shownWord session.hasExtras)
    let shownAssignments := assignments.map fun assignment =>
      let name := assignment.takeWhile (· ≠ '=')
      let value := assignment.drop (name.length + 1)
      name ++ '=' :: if value.isEmpty then [] else shownWord session.hasExtras value
    let text :=
      if session.hasExtras then
        shownAssignments.flatMap (fun assignment => line [assignment]) ++
          if words.isEmpty then [] else line shownWords
      else line (shownAssignments ++ shownWords)
    match errors.bind fun index => (session.process.machine.files[index]?).map (Prod.mk index) with
    | some (index, file) =>
      let _ ← ofJob (Job.writeTo index file text)
    | none => pure ()

/-! ### Running -/

/-- Run a function, whose parameters are its arguments. -/
def runFunction (interpreter : Interpreter) (name : ByteText) (body : Script)
    (arguments : List ByteText) : Action Unit :=
  afterwards (fun before after =>
      { after.reveal with
        calls := before.calls
        parameters := before.parameters
        loopDepth := before.loopDepth
        optionOffset := before.optionOffset }) do
    modify fun session => { session with
      parameters := arguments
      loopDepth := 0
      hidden := [] :: session.hidden
      calls := name :: session.calls }
    withTitle none (Builtin.returnable (interpreter.evaluate body))

/-- Run a command of the shell. Its failure ends nothing more if it is guarded. -/
def runBuiltin (interpreter : Interpreter) (isGuarded : Bool) (name : ByteText)
    (builtin : Builtin) (arguments : List ByteText) : Action Unit :=
  tryCatch (withTitle (some name) (builtin interpreter arguments)) fun
    | .failing => if isGuarded then pure () else throw .failing
    | leaving => throw leaving

/-- Why a program cannot be started, and the status for it. -/
def programFailure (session : Session) (name : ByteText) (error : SystemError) : String × Nat :=
  let process := session.process
  let found := process.machine.tree.resolve process.place ⟨ByteText.asString name⟩
  let isPath := name.contains '/'
  if name.isEmpty && !session.hasExtras then (SystemError.permissionDenied.description, 127)
  else
    match session.hasExtras && isPath, found with
    | true, .ok (.directory _ _) => (SystemError.isDirectory.description, 126)
    | true, .ok (.file _ content) =>
      match Program.interpreter? (ByteText.ofBytes content), error with
      | some (interpreter, _), .noSuchFile =>
        (ByteText.asString interpreter ++ ": bad interpreter: " ++ error.description, 126)
      | _, _ => startFailure session.hasExtras isPath error
    | _, _ => startFailure session.hasExtras isPath error

/-- Run a program. -/
def runProgram (interpreter : Interpreter) (usesStandardPath : Bool) (name : ByteText)
    (arguments : List ByteText) : Action Unit := do
  let session ← get
  let directories :=
    if usesStandardPath then Program.standardDirectories else session.searchDirectories
  match session.findProgram directories name with
  | (path, .ok program) =>
    remember name path
    launch interpreter program arguments
  | (_, .error error) =>
    let (reason, status) := programFailure session name error
    complain status (remark name reason)

/-- Run what a command is called for. -/
def perform (interpreter : Interpreter) (order : Order) (name : ByteText)
    (arguments : List ByteText) : Action Unit := do
  let session ← get
  match (if order.heedsFunctions then session.functions.find? fun entry => entry.1 = name
      else none) with
  | some (_, body) => runFunction interpreter name body arguments
  | none =>
    match Builtin.find? session.hasExtras name with
    | some builtin =>
      runBuiltin interpreter (order.isGuarded || !isSpecialName name) name builtin arguments
    | none => runProgram interpreter order.usesStandardPath name arguments

/-- Carry out assignments that only a command sees, and then the command. -/
def withAssignments (interpreter : Interpreter) (assignments : List Assignment)
    (errors : Option Nat) (words : List ByteText) (body : Action Unit) : Action Unit :=
  restoring (assignments.map Assignment.name) do
    let shown ← assignments.mapM fun assignment => do
      let shown ← takeAssignment interpreter assignment
      mark assignment.name true false
      pure shown
    trace errors shown words
    body

/-- Whether an assignment sets a whole list. -/
def Assignment.isList : Assignment → Bool
  | .list _ _ _ => true
  | .text _ _ _ _ => false

/-- Carry out the assignments of a command, and then the command. -/
def runOrder (interpreter : Interpreter) (assignments : List Assignment) (errors : Option Nat)
    (order : Order) : Action Unit := do
  let session ← get
  match order.words with
  | [] =>
    let shown ← assignments.mapM (takeAssignment interpreter)
    trace errors shown []
    modify fun session => { session with status := session.outputStatus }
  | name :: arguments =>
    let isFunction := order.heedsFunctions && session.functions.any fun entry => entry.1 = name
    let isPermanent := !isFunction && !order.isGuarded && isSpecialName name
    let (lists, others) := assignments.partition Assignment.isList
    if isPermanent then
      let shown ← assignments.mapM (takeAssignment interpreter)
      if name = "exec".toList then
        for assignment in assignments do
          mark assignment.name true false
      trace errors shown order.words
      perform interpreter order name arguments
    else
      withAssignments interpreter others errors order.words do
        perform interpreter order name (arguments ++ lists.map Assignment.name)
        for assignment in lists do
          let _ ← takeAssignment interpreter assignment

/-- Whether a command only leads the descriptors of the shell elsewhere. -/
def Order.isLasting (order : Order) : Bool :=
  order.words = ["exec".toList]

/-- End the script if a failure is not waited for and ends scripts. -/
def checkStatus : Action Unit := do
  let session ← get
  if session.status ≠ 0 && session.hasOption 'e' && !session.isTested then throw .exiting

/-- Run a simple command. -/
def runSimple (interpreter : Interpreter) (line : Nat) (assignments : List Assignment)
    (words : List Word) (redirections : List Redirection) : Action Unit := do
  meetSignals interpreter
  modify fun session => { session with line := line, outputStatus := 0 }
  let fields ← expandWords interpreter none words
  let order := orderOf (← get) fields
  let errors := (← ofJob (Job.openFile? 2)).map Prod.fst
  let body : Action Unit := do
    if ← redirect interpreter redirections then
      runOrder interpreter assignments errors order
    else if !order.isGuarded && order.words.head?.any isSpecialName then throw .failing
  if order.isLasting then body else withDescriptors body
  modify fun session => { session with partStatuses := [session.status] }
  meetSignals interpreter
  checkStatus

end CodeNavigator.Shell
