/-
This file says what can go wrong and how it is reported. A failure has one cause, and every layer
that the failure passes through may add what it was doing. The report lists these from the outermost
layer to the cause and to what lies behind the cause. Only a cause that comes from the oracle can be
told from the others, whatever was added around it.
-/

import CodeNavigator.Json.Fault
import CodeNavigator.SourceLocation

namespace CodeNavigator

/-! ### The oracle -/

/-- Why the output of the oracle makes no sense. -/
inductive Malformation
  | undecodable (error : Json.TextError)
  | notAnObject
  | missingObject (name : String)
  | missingString (name : String)
  | position (invalid : InvalidPosition)
deriving DecidableEq

def Malformation.message : Malformation → String
  | .undecodable error => error.message
  | .notAnObject => "expected a JSON object"
  | .missingObject name => "missing object field \"" ++ name ++ "\""
  | .missingString name => "missing string field \"" ++ name ++ "\""
  | .position invalid => invalid.message

/-- What lies behind senseless output, where that has a text of its own. -/
def Malformation.source : Malformation → Option String
  | .undecodable error => some error.message
  | .position invalid => invalid.source
  | _ => none

/-- Why a call of the oracle gives no answer: it failed, or its output makes no sense. -/
inductive OracleError
  | failedCall (exitCode : Int32)
  | malformedOutput (reason : Malformation)
deriving DecidableEq

def OracleError.message : OracleError → String
  | .failedCall exitCode => "Program exited with non-zero status: " ++ toString exitCode.toInt
  | .malformedOutput reason => "Error parsing JSON output: " ++ reason.message

def OracleError.source : OracleError → Option String
  | .failedCall _ => none
  | .malformedOutput reason => reason.source

/-! ### The operating system -/

/-- The errors of the operating system. A name or a command with a NUL in it is refused before the
operating system sees it. -/
inductive SystemError
  | notPermitted
  | noSuchFile
  | noSuchProcess
  | cannotExecute
  | badDescriptor
  | permissionDenied
  | fileExists
  | notDirectory
  | isDirectory
  | invalidArgument
  | noSpace
  | brokenPipe
  | nameTooLong
  | notEmpty
  | tooManyLinks
  | addressInUse
  | addressNotAvailable
  | nulInName
  | nulInCommand
deriving DecidableEq

namespace SystemError

def description : SystemError → String
  | .notPermitted => "Operation not permitted"
  | .noSuchFile => "No such file or directory"
  | .noSuchProcess => "No such process"
  | .badDescriptor => "Bad file descriptor"
  | .invalidArgument => "Invalid argument"
  | .noSpace => "No space left on device"
  | .brokenPipe => "Broken pipe"
  | .notEmpty => "Directory not empty"
  | .cannotExecute => "Exec format error"
  | .permissionDenied => "Permission denied"
  | .fileExists => "File exists"
  | .notDirectory => "Not a directory"
  | .isDirectory => "Is a directory"
  | .nameTooLong => "File name too long"
  | .tooManyLinks => "Too many levels of symbolic links"
  | .addressInUse => "Address already in use"
  | .addressNotAvailable => "Cannot assign requested address"
  | .nulInName => "file name contained an unexpected NUL byte"
  | .nulInCommand => "nul byte found in provided data"

/-- The number by which the operating system knows an error. -/
def code? : SystemError → Option Nat
  | .notPermitted => some 1
  | .noSuchFile => some 2
  | .noSuchProcess => some 3
  | .cannotExecute => some 8
  | .badDescriptor => some 9
  | .permissionDenied => some 13
  | .fileExists => some 17
  | .notDirectory => some 20
  | .isDirectory => some 21
  | .invalidArgument => some 22
  | .noSpace => some 28
  | .brokenPipe => some 32
  | .nameTooLong => some 36
  | .notEmpty => some 39
  | .tooManyLinks => some 40
  | .addressInUse => some 98
  | .addressNotAvailable => some 99
  | .nulInName | .nulInCommand => none

def message (error : SystemError) : String :=
  match error.code? with
  | some code => error.description ++ " (os error " ++ toString code ++ ")"
  | none => error.description

end SystemError

/-! ### Failures -/

/-- What a failure comes from. -/
inductive Cause
  | oracle (error : OracleError)
  | system (error : SystemError)
  | invalidText
  | nothingToWatch
  | other (text : String)
deriving DecidableEq

def Cause.message : Cause → String
  | .oracle error => error.message
  | .system error => error.message
  | .invalidText => "stream did not contain valid UTF-8"
  | .nothingToWatch => "No path was found."
  | .other text => text

def Cause.source : Cause → Option String
  | .oracle error => error.source
  | _ => none

/-- What was being done when something went wrong. What is done by a part from elsewhere is known by
its text alone. -/
inductive Activity
  | findingDefinition (file : Path) (offset : UInt64)
  | runningOracle (program : Path)
  | startingProcess (program : Path)
  | listingProjects (root : Path)
  | readingDirectory (directory : Path)
  | readingOutputFile (file : Path)
  | readingOutputStream
  | watching (root : Path)
  | other (text : String)
deriving DecidableEq

def Activity.message : Activity → String
  | .findingDefinition file offset =>
    "Find definition failed at " ++ file.text ++ ":#" ++ toString offset.toNat
  | .runningOracle program => "Failed to run oracle: " ++ program.text
  | .startingProcess program => "Failed to start process: " ++ program.text
  | .listingProjects root => "Failed to list projects in " ++ root.text
  | .readingDirectory directory => "Failed to read directory: " ++ directory.text
  | .readingOutputFile file => "Failed to read oracle output: " ++ file.text
  | .readingOutputStream => "Failed to read oracle output from stdin"
  | .watching root => "Failed to watch " ++ root.text
  | .other text => text

/-- A cause with the activities it interrupted, the outermost first. -/
structure Failure where
  activities : List Activity
  cause : Cause
deriving DecidableEq

namespace Failure

/-- A failure that no layer has added to. -/
def of (cause : Cause) : Failure :=
  ⟨[], cause⟩

/-- The same failure with one more activity around it. -/
def during (activity : Activity) (failure : Failure) : Failure :=
  { failure with activities := activity :: failure.activities }

/-- The texts of a failure, from the outermost activity to what lies behind the cause. -/
def chain (failure : Failure) : List String :=
  failure.activities.map Activity.message ++ failure.cause.message :: failure.cause.source.toList

/-- The whole failure on one line. -/
def message (failure : Failure) : String :=
  ": ".intercalate failure.chain

/-- The error of the oracle behind a failure, if one is behind it. -/
def oracleError? (failure : Failure) : Option OracleError :=
  match failure.cause with
  | .oracle error => some error
  | _ => none

/-- A text set off from the margin: its first line by the given lead, all others by as many
spaces. -/
def setOff (lead text : String) : String :=
  let indent := '\n' :: List.replicate lead.length ' '
  lead ++ String.ofList (text.toList.flatMap fun character =>
    if character = '\n' then indent else [character])

/-- The causes of a report. A single cause is only indented, several are numbered from 0. -/
def causeLines : List String → List String
  | [] => []
  | [single] => [setOff "    " single]
  | several => several.mapIdx fun index text => setOff ("    " ++ toString index ++ ": ") text

/-- The failure as a program reports it before it ends. -/
def report (failure : Failure) : String :=
  match failure.chain with
  | [] => ""
  | [only] => "Error: " ++ only ++ "\n"
  | outermost :: causes =>
    "Error: " ++ outermost ++ "\n\nCaused by:\n" ++
      String.join ((causeLines causes).map (· ++ "\n"))

end Failure

end CodeNavigator
