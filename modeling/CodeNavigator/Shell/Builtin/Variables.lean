/-
This file defines the commands of a shell that act on its variables, its parameters and its options.
-/

import CodeNavigator.Shell.Builtin.Basic

namespace CodeNavigator.Shell.Builtin

/-! ### Declarations -/

/-- The name and the value in a text of the form of an assignment. -/
def parts (argument : ByteText) : ByteText × Option ByteText :=
  let name := argument.takeWhile (· ≠ '=')
  (name, (argument.drop name.length).tail?)

/-- Complain about what is not the name of a variable. -/
def failName {α : Type} (text : ByteText) : Action α := do
  if (← get).hasExtras then
    fail ('\x60' :: text ++ "': not a valid identifier".toList)
  else fail (remark (text.takeWhile (· ≠ '=')) "bad variable name")

/-- The variables in the order of their names. -/
def sortedVariables (session : Session) : List Variable :=
  session.bindings.mergeSort fun left right => left.name.isUpTo right.name

/-- A variable in the form of an assignment. -/
def assignmentText (entry : Variable) : ByteText :=
  match entry.value.text? with
  | some text => entry.name ++ '=' :: quoted text
  | none => entry.name

/-- List the variables of some kind, each behind the name of a command. -/
def listVariables (command : String) (isShown : Variable → Bool) : Action Unit := do
  let session ← get
  let lead := ByteText.ofString (command ++ " ")
  writeOutput (ByteText.unlines
    (((sortedVariables session).filter isShown).map fun entry => lead ++ assignmentText entry))

/-- Declare variables, each with a value or without. -/
def declareAll (isExported isFixed : Bool) (arguments : List ByteText) : Action Unit := do
  setStatus 0
  for argument in arguments do
    let (name, value) := parts argument
    if !isName name then failName argument
    match value with
    | some text => assign name text
    | none => pure ()
    mark name isExported isFixed

/-- Let programs see variables, or list those that they see. -/
def exportVariables : Builtin := fun _ arguments => do
  let hasExtras := (← get).hasExtras
  let (options, operands) ← options (if hasExtras then "pnf" else "p") arguments
  if has 'n' options then
    setStatus 0
    for name in operands do
      modify fun session =>
        match session.named? name with
        | some found => session.withVariable { found with isExported := false }
        | none => session
  else if operands.isEmpty then listVariables "export" Variable.isExported
  else declareAll true false operands

/-- Keep variables from being changed, or list those that cannot be. -/
def readonly : Builtin := fun _ arguments => do
  let (_, operands) ← options "p" arguments
  if operands.isEmpty then listVariables "readonly" Variable.isFixed
  else declareAll false true operands

/-- Remember a variable until the function ends. -/
def hide (name : ByteText) : Action Unit :=
  modify fun session =>
    match session.hidden with
    | [] => session
    | frame :: outer =>
      if frame.any fun entry => entry.1 = name then session
      else { session with hidden := ((name, session.named? name) :: frame) :: outer }

/-- Declare variables that hide those of the same names until the function ends. -/
def localVariables : Builtin := fun _ arguments => do
  let session ← get
  if session.hidden.isEmpty then
    fail (if session.hasExtras then "can only be used in a function" else "not in a function").toList
  let (_, operands) ← options (if session.hasExtras then "aAirxn" else "") arguments
  for argument in operands do
    let (name, value) := parts argument
    if !isName name then failName argument
    hide name
    match value with
    | some text => assign name text
    | none => if session.hasExtras then assignValue name .missing
  setStatus 0

/-- Declare variables in a shell with extras. Inside of a function they hide others. -/
def declare : Builtin := fun _ arguments => do
  let (options, operands) ← options "aAfFgilnprtux" arguments
  for argument in operands do
    let (name, value) := parts argument
    if !isName name then failName argument
    unless has 'g' options do hide name
    let old := ((← get).named? name).map Variable.value
    match value with
    | some text => assign name text
    | none =>
      if has 'A' options then
        match old with
        | some (.table _) => pure ()
        | _ => assignValue name (.table [])
      else if has 'a' options && old.isNone then assignValue name (.list [])
    mark name (has 'x' options) (has 'r' options)
  if has 'p' options && operands.isEmpty then
    listVariables "declare --" fun _ => true
  setStatus 0

/-- The element that an argument names, if it names one. -/
def elementOf (argument : ByteText) : Option (ByteText × ByteText) :=
  let name := argument.takeWhile (· ≠ '[')
  match argument.drop name.length with
  | '[' :: rest => if rest.getLast? = some ']' then some (name, rest.dropLast) else none
  | _ => none

/-- Forget an element of a list. -/
def forgetElement (name key : ByteText) : Action Unit := do
  match ((← get).named? name).map Variable.value with
  | some (.list elements) =>
    let position ← compute key
    assignValue name (.list (elements.filter fun element => (element.1 : Int) ≠ position))
  | some (.table entries) =>
    assignValue name (.table (entries.filter fun entry => entry.1 ≠ key))
  | _ => pure ()

/-- Forget variables or functions. -/
def unset : Builtin := fun _ arguments => do
  let session ← get
  let (options, operands) ← options (if session.hasExtras then "fvn" else "fv") arguments
  setStatus 0
  for argument in operands do
    match (if session.hasExtras then elementOf argument else none) with
    | some (name, key) => forgetElement name key
    | none =>
      let isFunction := session.functions.any fun entry => entry.1 = argument
      let isVariable := (session.named? argument).isSome
      if has 'f' options || (session.hasExtras && isFunction && !isVariable && options.isEmpty) then
        modify fun session => { session with
          functions := session.functions.filter fun entry => entry.1 ≠ argument }
      else if !isName argument then failName argument
      else forget argument

/-! ### Parameters and options -/

/-- Leave parameters out from the beginning. -/
def shift : Builtin := fun _ arguments => do
  let distance ← match ← operands arguments with
    | [] => pure 1
    | argument :: _ => number argument
  let session ← get
  if session.parameters.length < distance then
    if session.hasExtras then setStatus 1 else fail "can't shift that many".toList
  else
    set { session with
      parameters := session.parameters.drop distance, status := 0, optionOffset := 0 }

/-- The options of a shell with their long names, in the order in which they are listed. -/
def optionNames : List (String × Char) :=
  [("errexit", 'e'), ("noglob", 'f'), ("ignoreeof", 'I'), ("interactive", 'i'), ("monitor", 'm'),
    ("noexec", 'n'), ("stdin", 's'), ("xtrace", 'x'), ("verbose", 'v'), ("vi", 'V'),
    ("emacs", 'E'), ("noclobber", 'C'), ("allexport", 'a'), ("notify", 'b'), ("nounset", 'u'),
    ("privileged", 'p'), ("nolog", '\x01'), ("debug", '\x02')]

/-- The further options of a shell with extras. -/
def extraOptionNames : List (String × Char) :=
  [("pipefail", '\x03'), ("errtrace", '\x04'), ("functrace", '\x05'), ("posix", '\x06'),
    ("braceexpand", '\x07'), ("hashall", '\x08'), ("keyword", '\x0b'), ("physical", '\x0c'),
    ("onecmd", '\x0e'), ("histexpand", '\x0f'), ("history", '\x10')]

/-- The letter that stands for the failure of any part of a pipeline. -/
def pipefailLetter : Char := '\x03'

/-- The options that a shell knows. -/
def knownOptions (session : Session) : List (String × Char) :=
  if session.hasExtras then optionNames ++ extraOptionNames else optionNames

/-- Turn an option on or off. -/
def turn (letter : Char) (isOn : Bool) : Action Unit :=
  modify fun session =>
    let others := session.options.filter (· ≠ letter)
    { session with options := if isOn then letter :: others else others }

/-- Turn an option on or off, as far as that is possible. Without a terminal jobs are not controlled,
unless the shell has extras. -/
def turnIfPossible (letter : Char) (isOn : Bool) : Action Unit := do
  if letter = 'm' && isOn && !(← get).hasExtras then
    warn "can't access tty; job control turned off".toList
  else turn letter isOn

/-- Turn on or off the option of a long name. -/
def turnNamed (name : ByteText) (isOn : Bool) : Action Unit := do
  match (knownOptions (← get)).find? fun entry => entry.1.toList = name with
  | some (_, letter) => turnIfPossible letter isOn
  | none =>
    if (← get).hasExtras then fail (name ++ ": invalid option name".toList)
    else fail ("Illegal option -o ".toList ++ name)

/-- List the options that have long names. -/
def listOptions (asCommands : Bool) : Action Unit := do
  let session ← get
  let line (entry : String × Char) : ByteText :=
    let isOn := session.hasOption entry.2
    if asCommands then
      ByteText.ofString ("set " ++ (if isOn then "-o " else "+o ") ++ entry.1)
    else
      ByteText.padRight 16 entry.1.toList ++ (if isOn then "on" else "off").toList
  let lines := optionNames.map line
  writeOutput (ByteText.unlines
    (if asCommands then lines else "Current option settings".toList :: lines))

/-- Turn options on or off by the letters of an argument. The answer tells whether a long name
follows. -/
def turnLetters (isOn : Bool) : ByteText → Action Bool
  | [] => pure false
  | letter :: rest => do
    if letter = 'o' then pure true
    else
      let known := (knownOptions (← get)).any fun entry => entry.2 = letter
      let isIgnored := (← get).hasExtras && ['B', 'E', 'H', 'P', 'T', 'h', 'k', 't', 'p'].contains letter
      if known || letter = 'l' then turnIfPossible letter isOn
      else if !isIgnored then failOption letter
      turnLetters isOn rest

/-- Set the options that arguments begin with. What follows are parameters, if there is anything. -/
def setOptions : Nat → List ByteText → Action (Option (List ByteText))
  | 0, _ => pure none
  | limit + 1, arguments =>
    match arguments with
    | [] => pure none
    | ['-', '-'] :: parameters => pure (some parameters)
    | ['-'] :: parameters => do
      turn 'x' false
      turn 'v' false
      pure (if parameters.isEmpty then none else some parameters)
    | (mark :: letter :: letters) :: rest => do
      if mark = '-' || mark = '+' then
        if ← turnLetters (mark = '-') (letter :: letters) then
          match rest with
          | name :: others =>
            turnNamed name (mark = '-')
            setOptions limit others
          | [] =>
            listOptions (mark = '+')
            pure none
        else setOptions limit rest
      else pure (some arguments)
    | _ => pure (some arguments)

/-- Set options and parameters, or list the variables. -/
def setParameters : Builtin := fun _ arguments => do
  setStatus 0
  if arguments.isEmpty then
    let session ← get
    writeOutput (ByteText.unlines
      (((sortedVariables session).filter fun entry => entry.value.text?.isSome).map
        assignmentText))
  else
    match ← setOptions (arguments.length + 1) arguments with
    | some parameters =>
      modify fun session => { session with parameters := parameters, optionOffset := 0 }
    | none => pure ()

/-- The parameter at which options are looked for, counted from one. -/
def optionIndex (session : Session) : Nat :=
  (((session.value? "OPTIND".toList).bind Text.readDigits).getD 1)

/-- Tell about the next option: its letter, its value and what is complained about. -/
def giveOption (variable_ letter : ByteText) (value : Option ByteText) (index offset : Nat)
    (status : Nat) : Action Unit := do
  match value with
  | some text => assign "OPTARG".toList text
  | none => forget "OPTARG".toList
  if !isName variable_ then failName variable_
  assign variable_ letter
  assign "OPTIND".toList (ByteText.ofNat index)
  modify fun session => { session with optionOffset := offset, status := status }

/-- Find the next option among some arguments. -/
def nextOption (known variable_ : ByteText) (arguments : List ByteText) : Action Unit := do
  let session ← get
  let isWithin := session.optionOffset ≠ 0
  let index := optionIndex session - if isWithin && !session.hasExtras then 1 else 0
  let argument := (arguments[index - 1]?).getD []
  let offset := if session.optionOffset = 0 then 1 else session.optionOffset
  let isSilent := known.head? = some ':'
  let quit (next : Nat) : Action Unit := giveOption variable_ ['?'] none next 0 1
  if session.optionOffset = 0 && !isOption argument then
    quit (if argument = ['-', '-'] then index + 1 else index)
  else
    match argument.drop offset with
    | [] => quit index
    | letter :: rest =>
      let next := if rest.isEmpty || !session.hasExtras then index + 1 else index
      let nextOffset := if rest.isEmpty then 0 else offset + 1
      match (if letter = ':' then [] else known.dropWhile (· ≠ letter)) with
      | [] =>
        if !isSilent then
          let message := "Illegal option -".toList ++ [letter]
          if session.hasExtras then
            write 2 (session.name ++ ": illegal option -- ".toList ++ [letter, '\n'])
          else write 2 (message ++ ['\n'])
        giveOption variable_ ['?'] (if isSilent then some [letter] else none) next nextOffset 0
      | _ :: ':' :: _ =>
        match rest, arguments[index]? with
        | [], some value => giveOption variable_ [letter] (some value) (index + 2) 0 0
        | [], none =>
          if isSilent then giveOption variable_ [':'] (some [letter]) (index + 1) 0 0
          else
            if session.hasExtras then
              write 2 (session.name ++ ": option requires an argument -- ".toList ++ [letter, '\n'])
            else write 2 ("No arg for -".toList ++ letter :: " option\n".toList)
            giveOption variable_ ['?'] none (index + 1) 0 0
        | value, _ => giveOption variable_ [letter] (some value) (index + 1) 0 0
      | _ => giveOption variable_ [letter] (some []) next nextOffset 0

/-- Take the next option out of the parameters. -/
def getopts : Builtin := fun _ arguments => do
  match arguments with
  | known :: variable_ :: rest =>
    let parameters := (← get).parameters
    nextOption known variable_ (if rest.isEmpty then parameters else rest)
  | _ =>
    if (← get).hasExtras then complain 2 "usage: getopts optstring name [arg ...]".toList
    else fail "Usage: getopts optstring var [arg...]".toList

/-! ### Input -/

/-- Remove the backslashes of a line, and mark what they protect. -/
def marked : ByteText → MarkedText
  | '\\' :: next :: rest => (true, next) :: marked rest
  | ['\\'] => []
  | character :: rest => (false, character) :: marked rest
  | [] => []

/-- Whether a marked character separates fields. -/
def isSeparator (separators : ByteText) (cell : Bool × Char) : Bool :=
  !cell.1 && separators.contains cell.2

/-- Whether a marked character is a blank that separates fields. -/
def isBlankSeparator (separators : ByteText) (cell : Bool × Char) : Bool :=
  isSeparator separators cell && Division.isBlankSeparator cell.2

/-- A line behind its first field and the separator after it. -/
def behindField (separators : ByteText) (line : MarkedText) : MarkedText × MarkedText :=
  let field := line.takeWhile fun cell => !isSeparator separators cell
  let after := (line.drop field.length).dropWhile (isBlankSeparator separators)
  let rest := match after with
    | cell :: others =>
      if isSeparator separators cell then others.dropWhile (isBlankSeparator separators) else after
    | [] => []
  (field, rest)

/-- Divide a line among some variables. The last one gets all that is left, without the blanks at its
end, and without a separator that only ends its one field. -/
def divide (separators : ByteText) : List ByteText → MarkedText → List (ByteText × ByteText)
  | [], _ => []
  | [last], line =>
    let start := line.dropWhile (isBlankSeparator separators)
    let (field, rest) := behindField separators start
    let trimmed := (start.reverse.dropWhile (isBlankSeparator separators)).reverse
    [(last, MarkedText.bare (if rest.isEmpty then field else trimmed))]
  | name :: names, line =>
    let (field, rest) := behindField separators (line.dropWhile (isBlankSeparator separators))
    (name, MarkedText.bare field) :: divide separators names rest

/-- How much of a text a line is, up to its end that no backslash protects. -/
def lineLength (isRaw : Bool) (delimiter : Char) : ByteText → Nat
  | [] => 0
  | '\\' :: next :: rest =>
    if isRaw then 1 + lineLength isRaw delimiter (next :: rest)
    else 2 + lineLength isRaw delimiter rest
  | character :: rest =>
    if character = delimiter then 1 else 1 + lineLength isRaw delimiter rest

/-- A line without the ends of lines that backslashes protect. -/
def withoutJoined : ByteText → ByteText
  | '\\' :: '\n' :: rest => withoutJoined rest
  | '\\' :: next :: rest => '\\' :: next :: withoutJoined rest
  | character :: rest => character :: withoutJoined rest
  | [] => []

/-- What reading asks for: whether backslashes are kept, where a line ends, how many characters are
read at most, from which descriptor, and which list takes the fields. -/
structure Request where
  isRaw : Bool
  delimiter : Char
  limit : Option Nat
  descriptor : Nat
  list : Option ByteText

/-- Read a line into variables. -/
def readInto (request : Request) (names : List ByteText) : Action Unit := do
  for name in names do
    if !isName name then failName name
  let measure (text : ByteText) : Nat :=
    let length := lineLength request.isRaw request.delimiter text
    match request.limit with
    | some limit => min limit length
    | none => length
  match ← ofJob (Job.readPart request.descriptor measure) with
  | .error error => fail (remark "read error: 0".toList error.description)
  | .ok taken =>
    let isEnded := taken.getLast? = some request.delimiter
    let isFull := request.limit = some taken.length && !taken.isEmpty
    let line := (if isEnded then taken.dropLast else taken).filter (· ≠ '\x00')
    let cells := if request.isRaw then MarkedText.plain line else marked (withoutJoined line)
    let separators := (← get).separators
    match request.list with
    | some name =>
      let found := fields separators (cells.map fun cell =>
        if cell.1 then Cell.written true cell.2 else .expanded cell.2)
      assignValue name (.list (found.mapIdx fun index field => (index, MarkedText.bare field)))
    | none =>
      if names.isEmpty then assign "REPLY".toList (MarkedText.bare cells)
      else
        for (name, value) in divide separators names cells do
          assign name value
    setStatus (if isEnded || isFull then 0 else 1)

/-- Read a line of the input into variables. -/
def readLineInto : Builtin := fun _ arguments => do
  let hasExtras := (← get).hasExtras
  let (options, names) ← options (if hasExtras then "a:d:n:N:p:rst:u:e" else "p:r") arguments
  let value? (letter : Char) : Option ByteText :=
    (options.find? fun option => option.1 = letter).map Prod.snd
  if names.isEmpty && !hasExtras then fail "arg count".toList
  else
    readInto
      { isRaw := has 'r' options
        delimiter := match value? 'd' with
          | some text => text.head?.getD '\x00'
          | none => '\n'
        limit := ((value? 'n') <|> (value? 'N')).bind Text.readDigits
        descriptor := ((value? 'u').bind Text.readDigits).getD 0
        list := value? 'a' } names

/-- Read all lines of the input into a list. -/
def readLines : Builtin := fun _ arguments => do
  let (options, names) ← options "tn:O:s:c:C:d:u:" arguments
  match ← ofJob (Job.readAll 0) with
  | .error error => complain 1 (remark "read error".toList error.description)
  | .ok text =>
    let lines := (ByteText.linesWithEnds text).map fun line =>
      if has 't' options then ByteText.withoutEnd line else line
    assignValue (names.head?.getD "MAPFILE".toList)
      (.list (lines.mapIdx fun index line => (index, line)))
    setStatus 0

/-- Compute expressions. The status tells whether the last one is not zero. -/
def letValues : Builtin := fun _ arguments => do
  let mut last : Int := 0
  for argument in arguments do
    last ← compute argument
  setStatus (if last = 0 then 1 else 0)

end CodeNavigator.Shell.Builtin
