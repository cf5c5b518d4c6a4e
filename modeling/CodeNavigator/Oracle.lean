/-
This file calls the oracle. The oracle is a program that is told a byte offset in a source file and
which packages to look at, and describes what it finds there. The command line is a function of the
request alone, and the call ends in one of three ways: the program finishes, it cannot be run, or
the runner itself breaks down.
-/

import CodeNavigator.Definition.Answer

namespace CodeNavigator

/-! ### Commands -/

/-- A program with everything that it is started with. -/
structure Command where
  program : Path
  arguments : List String
  environment : List (String × String)
  workingDirectory : Option Path
deriving DecidableEq

/-- The directory of a file as the oracle is told it: never the empty text. -/
def packageDirectory (file : Path) : String :=
  match file.parent with
  | some directory => if directory.text = "" then "." else directory.text
  | none => "."

/-- The command that asks the oracle about an offset in a file. Without packages it looks at the
directory of the file. -/
def Command.describe (oracle : Path) (gopath : Option String) (file : Path) (offset : UInt64)
    (scope : List String) : Command where
  program := oracle
  arguments :=
    ["-pos=" ++ file.text ++ ":#" ++ toString offset.toNat, "-format=json", "describe"] ++
      (if scope.isEmpty then [packageDirectory file] else scope)
  environment := gopath.toList.map fun value => ("GOPATH", value)
  workingDirectory := none

/-! ### Calls -/

/-- What a program leaves behind. The exit code is -1 when it was ended by a signal. -/
structure Finished where
  exitCode : Int32
  output : String
  errorOutput : String
deriving DecidableEq

/-- How something that may break down ends. -/
inductive Outcome (Result : Type)
  | done (result : Result)
  | failed (failure : Failure)
  | broken

/-- What is told of a call that broke down, with the report of it if there is one. -/
def brokenMessage (report : Option String) : String :=
  "task join error" ++ (report.map fun report => ": " ++ report).getD ""

/-- Something that runs commands. -/
abbrev Runner := Command → Outcome Finished

/-- What it means that a command of the oracle has ended in some way. -/
def Command.interpret (command : Command) : Outcome Finished → Outcome Finding
  | .done finished =>
    match Finding.ofOutput finished.output finished.exitCode with
    | .ok finding => .done finding
    | .error error => .failed (.of (.oracle error))
  | .failed failure => .failed (failure.during (.runningOracle command.program))
  | .broken => .broken

/-- Run a command of the oracle and interpret its end. The run may have effects of any kind. -/
def Command.ask {Effect : Type → Type} [Monad Effect] (command : Command)
    (run : Command → Effect (Outcome Finished)) : Effect (Outcome Finding) := do
  return command.interpret (← run command)

end CodeNavigator
