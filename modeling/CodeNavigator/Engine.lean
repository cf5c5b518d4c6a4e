/-
This file puts the parts together. The engine has settings, a runner for the oracle and a model of
the workspace, and answers the requests that other programs and people make: where something is
defined, what saved output of the oracle means, what the workspace looks like, and how the engine
is set up.
-/

import CodeNavigator.Navigator.Tree
import CodeNavigator.Oracle

namespace CodeNavigator

/-! ### Requests -/

/-- A request for the definition of what stands at a byte offset in a file. -/
structure DefinitionRequest where
  file : String
  offset : UInt64
  scope : List String
deriving DecidableEq

/-- A request to interpret saved output of the oracle. -/
structure OutputRequest where
  output : String
  exitCode : Int32
deriving DecidableEq

/-- How the engine is set up. -/
structure Health where
  oraclePath : String
  workspaceRoot : String
  projectCount : UInt64
deriving DecidableEq

/-! ### Settings -/

/-- The settings of an engine. The throttle delay is in milliseconds. -/
structure Settings where
  oracle : Path
  gopath : Option String
  workspaceRoot : Path
  throttleDelay : Nat
deriving DecidableEq

/-- The settings where nothing else is asked for. -/
def Settings.standard : Settings :=
  ⟨⟨"oracle"⟩, none, ⟨"."⟩, 500⟩

/-- The file that a request means: relative names start at the workspace. -/
def Settings.resolve (settings : Settings) (file : String) : Path :=
  settings.workspaceRoot.join ⟨file⟩

/-- The command that answers a request. -/
def Settings.command (settings : Settings) (request : DefinitionRequest) : Command :=
  .describe settings.oracle settings.gopath (settings.resolve request.file) request.offset
    request.scope

/-- Where the thing at a position is defined, as far as commands can be run to find it out. -/
def Settings.findDefinition {Effect : Type → Type} [Monad Effect] (settings : Settings)
    (run : Command → Effect (Outcome Finished)) (request : DefinitionRequest) :
    Effect (Outcome Answer) := do
  match ← (settings.command request).ask run with
  | .done finding => return .done (.ofFinding finding)
  | .failed failure =>
    let file := settings.resolve request.file
    return .failed (failure.during (.findingDefinition file request.offset))
  | .broken => return .broken

/-! ### The engine -/

/-- Settings, a runner and a model. -/
structure Engine where
  settings : Settings
  runner : Runner
  model : Model

namespace Engine

/-- Where the thing at a position is defined. -/
def findDefinition (engine : Engine) (request : DefinitionRequest) : Outcome Answer :=
  Id.run (engine.settings.findDefinition (fun command => pure (engine.runner command)) request)

/-- Run a command and note it down. -/
def runAndNote (engine : Engine) (command : Command) :
    StateM (List Command) (Outcome Finished) := do
  modify (· ++ [command])
  return engine.runner command

/-- Where the thing at a position is defined, with the commands that are run for it. -/
def findWithCommands (engine : Engine) (request : DefinitionRequest) :
    Outcome Answer × List Command :=
  Id.run ((engine.settings.findDefinition engine.runAndNote request).run [])

/-- What saved output of the oracle means. -/
def parseOutput (request : OutputRequest) : Except Failure Answer :=
  match Finding.ofOutput request.output request.exitCode with
  | .ok finding => .ok (.ofFinding finding)
  | .error error => .error (.of (.oracle error))

/-- The tree of the workspace, if it comes to an end. -/
def tree? (engine : Engine) (depth : Option Nat) : Option (Except Failure Tree) :=
  engine.model.tree? engine.settings.workspaceRoot depth

/-- The tree of a workspace in which the levels that are asked for come to an end. -/
def tree (engine : Engine) (depth : Option Nat) : Except Failure Tree :=
  engine.model.tree engine.settings.workspaceRoot depth

/-- How the engine is set up. Projects that cannot be listed count as none. -/
def health (engine : Engine) : Health :=
  let count := match engine.model.roots with
    | .ok roots => roots.length
    | .error _ => 0
  ⟨engine.settings.oracle.text, engine.settings.workspaceRoot.text, UInt64.ofNat count⟩

end Engine

end CodeNavigator
