/-
This file says what a command line asks for. Some options belong to the program and may stand before
or behind the command; of two values the one behind the command counts, and a value on the command
line counts more than one in the environment, which counts more than the standard one. A command
line that breaks a rule anywhere asks for nothing.
-/

import CodeNavigator.CommandLine.Argument
import CodeNavigator.Engine
import CodeNavigator.SocketAddress
import CodeNavigator.Text.Decimal

namespace CodeNavigator.CommandLine

/-! ### Orders -/

/-- What the program is told to do. A depth limits the levels of the tree. -/
inductive Order
  | findDefinition (request : DefinitionRequest) (asJson : Bool)
  | parse (input : Option Path) (exitCode : Int32) (asJson : Bool)
  | tree (depth : Option Nat)
  | watch (depth : Option Nat)
  | serve (address : SocketAddress)
  | speakMcp

/-- What a command line asks for. -/
inductive Invocation
  | help
  | version
  | run (settings : Settings) (order : Order)

/-! ### Values -/

/-- A number that fits in an unsigned word of 64 bits. -/
def readWord (text : String) : Option Nat :=
  Text.readUnsigned (Nat.pow 2 64) text.toList

/-- A number that fits in a signed word of 32 bits. -/
def readExitCode (text : String) : Option Int32 :=
  (Text.readSigned 32 text.toList).map Int32.ofInt

def isPath (text : String) : Bool :=
  text ≠ ""

def isWord (text : String) : Bool :=
  (readWord text).isSome

def isExitCode (text : String) : Bool :=
  (readExitCode text).isSome

def isAddress (text : String) : Bool :=
  (SocketAddress.read text).isSome

def isText (_ : String) : Bool :=
  true

/-! ### Levels -/

/-- An option that is given or not. -/
def flag (name : String) (letter : Option Char) : Rule :=
  ⟨name, letter, false, false, false, isText⟩

/-- An option with a value. -/
def valued (name : String) (letter : Option Char) (accepts : String → Bool) : Rule :=
  ⟨name, letter, true, false, false, accepts⟩

/-- The options that may stand before or behind the command. -/
def sharedRules : List Rule :=
  [valued "oracle" none isPath, valued "gopath" none isText, valued "workspace" (some 'w') isPath,
    flag "verbose" (some 'v'), flag helpName (some 'h')]

/-- The level of the program itself. -/
def programLevel : Level :=
  ⟨flag versionName (some 'V') :: sharedRules, .end⟩

/-- The option that asks for JSON. -/
def jsonRule : Rule :=
  flag "json" none

def depthRule : Rule :=
  valued "depth" none isWord

/-- The commands and their levels. -/
def commandLevels : List (String × Level) :=
  [("find-definition", ⟨sharedRules ++ [{ valued "scope" none isText with isRepeatable := true },
      jsonRule], .places [isText, isWord]⟩),
    ("parse", ⟨sharedRules ++ [{ valued "exit-code" none isExitCode with allowsNegative := true },
      jsonRule], .places [isPath]⟩),
    ("tree", ⟨sharedRules ++ [depthRule], .places []⟩),
    ("watch", ⟨sharedRules ++ [valued "throttle-ms" none isWord, depthRule], .places []⟩),
    ("serve", ⟨sharedRules ++ [valued "addr" none isAddress], .places []⟩),
    ("mcp", ⟨sharedRules, .places []⟩)]

/-- The level of a command. -/
def levelOf (name : String) : Option Level :=
  (commandLevels.find? fun command => command.1 = name).map Prod.snd

/-! ### Reading -/

/-- The address on which the server listens when no other is given. -/
def standardAddress : SocketAddress :=
  ⟨.numbers [127, 0, 0, 1], 7878⟩

/-- The order that a command with its options gives, if nothing is missing. -/
def order? (name : String) (found : Found) : Option Order :=
  let asJson := found.has "json"
  let depth := (found.value? "depth").bind readWord
  match name, found.words with
  | "find-definition", [file, offset] =>
    (readWord offset).map fun number =>
      .findDefinition ⟨file, UInt64.ofNat number, found.values "scope"⟩ asJson
  | "parse", words =>
    let exitCode := ((found.value? "exit-code").bind readExitCode).getD 0
    some (.parse (words.head?.map Path.mk) exitCode asJson)
  | "tree", _ => some (.tree depth)
  | "watch", _ => some (.watch depth)
  | "serve", _ =>
    some (.serve (((found.value? "addr").bind SocketAddress.read).getD standardAddress))
  | "mcp", _ => some .speakMcp
  | _, _ => none

/-- The value of a variable of the environment, the last one that was set. -/
def environmentValue? (environment : List (String × String)) (name : String) : Option String :=
  (environment.reverse.find? fun entry => entry.1 = name).map Prod.snd

/-- The variable that names the oracle. -/
def oracleVariable : String := "GONAV_ORACLE"

/-- The variable that holds the search path of the oracle. -/
def gopathVariable : String := "GOPATH"

/-- Whether the environment is fit for the options of the two levels. An empty oracle is no path,
and matters on each level that does not name the oracle itself. -/
def isFit (environment : List (String × String)) (outer inner : Found) : Bool :=
  match environmentValue? environment oracleVariable with
  | some value => isPath value || (outer.has "oracle" && inner.has "oracle")
  | none => true

/-- The settings that two levels and the environment make. -/
def settings (environment : List (String × String)) (outer inner : Found) : Settings :=
  let given (name : String) : Option String := (inner.value? name).or (outer.value? name)
  let found (name spare : String) : Option String :=
    (given name).or (environmentValue? environment spare)
  let standard := Settings.standard
  { standard with
    oracle := ((found "oracle" oracleVariable).map Path.mk).getD standard.oracle
    gopath := found "gopath" gopathVariable
    workspaceRoot := ((given "workspace").map Path.mk).getD standard.workspaceRoot
    throttleDelay := ((inner.value? "throttle-ms").bind readWord).getD standard.throttleDelay }

/-- What the command that asks for help is asked about: nothing, or one command. -/
def readHelp : List String → Option Invocation
  | [] => some .help
  | [name] => if name = helpName || (levelOf name).isSome then some .help else none
  | _ => none

/-- What stopping a level asks for. -/
def Invocation.ofStop : Stop → Option Invocation
  | .misuse => none
  | .help => some .help
  | .version => some .version

/-- What a command line asks for, if it breaks no rule. -/
def Invocation.read (environment : List (String × String)) (arguments : List String) :
    Option Invocation :=
  match programLevel.read .nothing arguments with
  | .error stop => Invocation.ofStop stop
  | .ok (_, []) => none
  | .ok (outer, name :: rest) =>
    if name = helpName then readHelp rest
    else do
      let level ← levelOf name
      match level.read .nothing rest with
      | .error stop => Invocation.ofStop stop
      | .ok (inner, _) =>
        let order ← order? name inner
        if isFit environment outer inner then some (.run (settings environment outer inner) order)
        else none

end CodeNavigator.CommandLine
