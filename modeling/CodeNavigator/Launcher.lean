/-
This file starts commands. A command begins in its working directory, with the environment that it
inherits and its own changes to it, and without input. It either cannot be started, which the
operating system explains, or it runs to its end and leaves an exit code and two texts.
-/

import CodeNavigator.Installation
import CodeNavigator.Oracle

namespace CodeNavigator

/-- What commands are started with: the files, the directory, and the environment that they
inherit. -/
structure Launcher where
  tree : FileTree
  place : FileTree.Place
  environment : List (String × String)

namespace Launcher

/-- The environment in which nothing else is set. -/
def standardEnvironment : List (String × String) :=
  [("PATH", "/usr/local/sbin:/usr/local/bin:/usr/sbin:/usr/bin:/sbin:/bin")]

/-- The variables of an environment in the order of their names, each with its last value. -/
def settle (environment : List (String × String)) : List (String × String) :=
  let last := environment.foldl (fun settled (name, value) =>
    settled.filter (fun entry => entry.1 ≠ name) ++ [(name, value)]) []
  last.mergeSort fun left right => decide (left.1 ≤ right.1)

/-- A variable as a program finds it: its name ends at the first sign of equality. -/
def variableOf (name value : String) : ByteText × ByteText :=
  let text := ByteText.ofString name ++ '=' :: ByteText.ofString value
  let shownName := text.takeWhile (· ≠ '=')
  (shownName, text.drop (shownName.length + 1))

/-- Whether a command holds a NUL, which no operating system takes. -/
def hasNul (command : Command) : Bool :=
  let texts := command.program.text :: command.arguments ++
    command.environment.flatMap (fun (name, value) => [name, value]) ++
    (command.workingDirectory.map Path.text).toList
  texts.any fun text => text.contains '\x00'

/-- The place where a command begins. -/
def workingPlace (launcher : Launcher) (command : Command) :
    Except SystemError FileTree.Place := do
  match command.workingDirectory with
  | none => .ok launcher.place
  | some directory =>
    let place ← launcher.tree.locate launcher.place directory
    match launcher.tree.look place with
    | some (.directory mode _) => if mode.mayExecute then .ok place else .error .permissionDenied
    | _ => .error .notDirectory

/-- The program of a command. When it is looked for along a search path that the command brings
itself, a file without an interpreter is a script of the standard shell. -/
def program (launcher : Launcher) (place : FileTree.Place) (command : Command)
    (environment : List (ByteText × ByteText)) : Except SystemError Program :=
  let name := ByteText.ofString command.program.text
  let bringsPath := command.environment.any fun entry => entry.1 = "PATH"
  match Program.find launcher.tree place (Program.directoriesOf environment) name with
  | (path, .error .cannotExecute) =>
    if bringsPath && !name.contains '/' then .ok ⟨"sh", "/bin/sh".toList, [path]⟩
    else .error .cannotExecute
  | (_, found) => found

/-- The process as which a command begins. Its output goes into two pipes. -/
def process (launcher : Launcher) (place : FileTree.Place)
    (environment : List (ByteText × ByteText)) : Process where
  machine :=
    { tree := launcher.tree
      files := #[⟨.device .null, 0, true, false, false⟩, ⟨.pipe 0, 0, false, true, false⟩,
        ⟨.pipe 1, 0, false, true, false⟩]
      pipes := #[⟨[], [], 0⟩, ⟨[], [], 0⟩]
      lastNumber := 1000
      signals := []
      clock := 0 }
  number := 1000
  parent := 999
  place := place
  descriptors := [(0, 0), (1, 1), (2, 2)]
  environment := environment
  mask := 0o022
  ignored := []
  alarms := []

/-- The text that was put into a pipe. -/
def outputOf (machine : Machine) (index : Nat) : String :=
  Text.Utf8.repair (ByteText.toBytes ((machine.pipes[index]?.map Pipe.content).getD []))

/-- Start a command and wait for its end. -/
def start (launcher : Launcher) (command : Command) : Except SystemError Finished :=
  if hasNul command then .error .nulInCommand
  else do
    let place ← launcher.workingPlace command
    let environment :=
      (settle (launcher.environment ++ command.environment)).map fun (name, value) =>
        variableOf name value
    let program ← launcher.program place command environment
    let job := Installation.launch Installation.depthLimit program
      (command.arguments.map ByteText.ofString)
    let (result, after) := job.run (launcher.process place environment)
    let exitCode : Int32 := match result with
      | .ok status => Int32.ofNat (status % 256)
      | .error (.exited status) => Int32.ofNat (status % 256)
      | .error (.killed _) => -1
      | .error .exhausted => 255
    .ok ⟨exitCode, outputOf after.machine 0, outputOf after.machine 1⟩

/-- The runner that starts commands. -/
def runner (launcher : Launcher) : Runner := fun command =>
  match launcher.start command with
  | .ok finished => .done finished
  | .error error =>
    .failed ((Failure.of (.system error)).during (.startingProcess command.program))

end Launcher

end CodeNavigator
