/-
This file does what an order of the command line asks for. What there is besides the order is a
value: the files, the environment and the standard input, and what runs the commands of the oracle.
The answer is what the program leaves behind: an exit code, what it prints, and the report of a
failure. Two orders have no end of their own, to watch a workspace and to listen on an address, so
they are answered only when they fail.
-/

import CodeNavigator.CommandLine.Invocation
import CodeNavigator.Json.Printer
import CodeNavigator.Mcp.Conversation
import CodeNavigator.Message.Response
import CodeNavigator.Navigator.Workspace

namespace CodeNavigator.CommandLine

/-- What the program finds when it starts: the files and the place among them where it is, the
environment and the input. -/
structure World where
  tree : FileTree
  place : FileTree.Place
  environment : List (String × String)
  input : List UInt8

/-- What the program leaves behind. -/
structure Ending where
  exitCode : Nat
  output : String
  error : Option String
deriving DecidableEq

namespace Ending

def success (output : String) : Ending :=
  ⟨0, output, none⟩

def failure (failure : Failure) : Ending :=
  ⟨1, "", some failure.report⟩

/-- The end of a program that was not used as it should be. -/
def misuse : Ending :=
  ⟨2, "", none⟩

end Ending

/-! ### Parts of the program -/

/-- The engine that works on a world, with something that runs its commands. -/
def World.engineOn (world : World) (runner : Runner) (settings : Settings) : Engine :=
  ⟨settings, runner, Workspace.model world.tree world.place settings.workspaceRoot⟩

/-- The content of a file. One device stands for the input. -/
def World.read (world : World) (path : Path) : Except SystemError (List UInt8) :=
  match world.tree.resolve world.place path with
  | .ok (.device (.descriptor 0)) => .ok world.input
  | _ => world.tree.readFile world.place path

/-- The saved output that an order means: that of a file, or the input where no file is named. -/
def World.output (world : World) (input : Option Path) : Except Failure String :=
  let decoded (activity : Activity) : Except SystemError (List UInt8) → Except Failure String
    | .error error => .error ((Failure.of (.system error)).during activity)
    | .ok bytes =>
      match Text.Utf8.decode? bytes with
      | some text => .ok text
      | none => .error ((Failure.of .invalidText).during activity)
  match input with
  | none => decoded .readingOutputStream (.ok world.input)
  | some path =>
    if path.Same ⟨"-"⟩ then decoded .readingOutputStream (.ok world.input)
    else decoded (.readingOutputFile path) (world.read path)

/-- An answer as it is printed. -/
def shown (answer : Answer) (asJson : Bool) : String :=
  (if asJson then answer.toJson.indented else answer.render) ++ "\n"

/-- The text that tells how the program is used. -/
def usage : String :=
  "Go project navigation and oracle-backed find-definition\n\n" ++
    "Usage: gonav [OPTIONS] <COMMAND>\n\nCommands:\n" ++
    String.join (commandLevels.map fun command => "  " ++ command.1 ++ "\n")

/-- The version of the program. -/
def version : String := "gonav 0.1.0\n"

/-! ### Orders without an end -/

/-- Why a workspace cannot be watched, if it cannot. -/
def watchingFailure? (world : World) (root : Path) : Option Failure :=
  let failed (cause : Cause) : Option Failure :=
    some ((Failure.of cause).during (.watching root))
  match world.tree.resolve world.place root with
  | .ok _ => none
  | .error .noSuchFile => failed .nothingToWatch
  | .error error => failed (.system error)

/-- Why nothing can listen on an address, if it cannot. -/
def listeningFailure? (address : SocketAddress) : Option Failure :=
  if address.isReserved then some (.of (.system .permissionDenied))
  else if address.isLocal then none
  else some (.of (.system .addressNotAvailable))

/-- What is left of a talk to a model when the input has ended. -/
def talk (engine : Engine) (input : List UInt8) : Ending :=
  let lines := (Text.split '\n' (Text.Utf8.repair input).toList).map String.ofList
  let (answers, stage) := Mcp.converse engine lines
  let output := String.join (answers.map fun answer => answer ++ "\n")
  match stage.missing? with
  | some reason => { Ending.failure (.of (.other reason)) with output := output }
  | none => .success output

/-! ### Orders -/

/-- What an order ends with, if it ends. -/
def follow (world : World) (runner : Runner) (settings : Settings) (order : Order) :
    Option Ending :=
  let engine := world.engineOn runner settings
  match order with
  | .findDefinition request asJson =>
    match engine.findDefinition request with
    | .done answer => some (.success (shown answer asJson))
    | .failed failure => some (.failure failure)
    | .broken => none
  | .parse input exitCode asJson =>
    match world.output input with
    | .error failure => some (.failure failure)
    | .ok output =>
      match Engine.parseOutput ⟨output, exitCode⟩ with
      | .ok answer => some (.success (shown answer asJson))
      | .error failure => some (.failure failure)
  | .tree depth =>
    match engine.tree? depth with
    | some (.ok tree) => some (.success tree.render)
    | some (.error failure) => some (.failure failure)
    | none => none
  | .watch _ => (watchingFailure? world settings.workspaceRoot).map .failure
  | .serve address => (listeningFailure? address).map .failure
  | .speakMcp => some (talk engine world.input)

end CodeNavigator.CommandLine
