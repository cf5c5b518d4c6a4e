/-
This file is the program. It gathers what a run needs, the environment, the input and the files that
the run looks at, hands them over as values, and prints what comes back.
-/

import CodeNavigator.CommandLine.Execution
import CodeNavigator.Mcp.Conversation

namespace CodeNavigator.Main

/-- Read bytes until there are no more, at most so many times. -/
def readAll (stream : IO.FS.Stream) : Nat → ByteArray → IO ByteArray
  | 0, bytes => pure bytes
  | limit + 1, bytes => do
    let more ← stream.read 65536
    if more.isEmpty then pure bytes else readAll stream limit (bytes ++ more)

/-- The variables of the environment that have a meaning for the program. -/
def readEnvironment : IO (List (String × String)) := do
  let names := [CommandLine.oracleVariable, CommandLine.gopathVariable]
  let values ← names.mapM fun name => IO.getEnv name
  pure ((names.zip values).filterMap fun (name, value) => value.map fun found => (name, found))

/-- The files below a directory, down to so many levels. -/
def readTree : Nat → String → IO FileTree
  | 0, _ => pure FileTree.empty
  | limit + 1, path => do
    let directory ← IO.FS.realPath path
    let listing ← (some <$> directory.readDir).catchExceptions fun _ => pure none
    match listing with
    | none => pure (.directory ⟨0⟩ [])
    | some entries =>
      let below ← entries.toList.mapM fun entry => do
        let node ← match (← entry.path.symlinkMetadata).type with
          | .dir => readTree limit entry.path.toString
          | .symlink => pure (.link ⟨(← IO.FS.realPath entry.path).toString⟩)
          | _ => pure (.file .plain [])
        pure (entry.fileName, node)
      pure (.directory .executable below)

/-- The names along a path, where two dots take back the name before them. -/
def namesOf (path : Path) : List String :=
  (FileTree.segments path).foldl (fun names segment =>
    if Path.isBlank segment then names
    else if segment = ['.', '.'] then names.dropLast
    else names ++ [String.ofList segment]) []

/-- The files that a run looks at: the one that holds saved output, or those below the workspace. -/
def readFiles (workspace : Path) : CommandLine.Order → IO FileTree
  | .parse (some input) _ _ => do
    let content ← IO.FS.readBinFile input.text
    pure (FileTree.add (.file .plain content.toList) (namesOf input) .empty)
  | .parse none _ _ => pure .empty
  | _ => do
    let tree ← readTree 100 workspace.text
    pure (FileTree.add tree (namesOf workspace) .empty)

/-- Gather what an order needs. What cannot be read is not there. -/
def gather (environment : List (String × String)) (settings : Settings)
    (order : CommandLine.Order) : IO CommandLine.World := do
  let tree ← (readFiles settings.workspaceRoot order).catchExceptions fun _ =>
    pure FileTree.empty
  let input ← match order with
    | .parse _ _ _ => readAll (← IO.getStdin) (Nat.pow 2 32) ByteArray.empty
    | _ => pure ByteArray.empty
  pure ⟨tree, [], environment, input.toList⟩

/-- Answer calls line by line, at most so many of them, and tell how far the talk has come. -/
def converse (engine : Engine) (input output : IO.FS.Stream) :
    Nat → Mcp.Stage → IO Mcp.Stage
  | 0, stage => pure stage
  | limit + 1, stage => do
    let line ← input.getLine
    if line.isEmpty then pure stage
    else
      let (answer, next) := stage.hear engine line
      match answer with
      | some text =>
        output.putStrLn text
        output.flush
      | none => pure ()
      converse engine input output limit next

/-- Print what a run leaves behind. -/
def finish : Option CommandLine.Ending → IO UInt32
  | none => pure 0
  | some ending => do
    IO.print ending.output
    IO.eprint (ending.error.getD "")
    pure ending.exitCode.toUInt32

end CodeNavigator.Main

def main (arguments : List String) : IO UInt32 := do
  let environment ← CodeNavigator.Main.readEnvironment
  match CodeNavigator.CommandLine.Invocation.read environment arguments with
  | some (.run settings order) =>
    let world ← CodeNavigator.Main.gather environment settings order
    match order with
    | .speakMcp =>
      let stage ← CodeNavigator.Main.converse (world.engine settings) (← IO.getStdin)
        (← IO.getStdout) (Nat.pow 2 32) .silent
      CodeNavigator.Main.finish (stage.missing?.map fun reason =>
        .failure (.of (.other reason)))
    | _ =>
      CodeNavigator.Main.finish
        (CodeNavigator.CommandLine.follow world world.runner settings order)
  | _ =>
    CodeNavigator.Main.finish
      (CodeNavigator.CommandLine.run ⟨.empty, [], environment, []⟩ arguments)
