/-
This file defines the commands of a shell that act on its directory and on what new files may be, and
those that decide conditions and look names up.
-/

import CodeNavigator.FileTree.ModeChange
import CodeNavigator.Shell.Builtin.Basic
import CodeNavigator.Shell.Condition

namespace CodeNavigator.Shell.Builtin

/-! ### The directory -/

/-- The name of a place as an absolute path. -/
def placeName (place : FileTree.Place) : ByteText :=
  if place.isEmpty then ['/']
  else place.reverse.flatMap fun name => '/' :: ByteText.ofString name

/-- A path that is put behind a directory, without what goes up again. -/
def joinPath (directory path : ByteText) : ByteText :=
  let start := if path.head? = some '/' then [] else Text.split '/' directory
  let names := (start ++ Text.split '/' path).foldl (fun names name =>
    if name.isEmpty || name = ['.'] then names
    else if name = ['.', '.'] then names.dropLast
    else names ++ [name]) ([] : List ByteText)
  if names.isEmpty then ['/'] else names.flatMap fun name => '/' :: name

/-- Go to the directory that a path leads to. -/
def goTo (isPhysical : Bool) (target : ByteText) : Action (Except SystemError Unit) := do
  let session ← get
  let process := session.process
  let logical := joinPath session.directory target
  let path := if isPhysical then target else logical
  match process.machine.tree.locate process.place ⟨ByteText.asString path⟩ with
  | .error error => pure (.error error)
  | .ok place =>
    match process.machine.tree.look place with
    | some (.directory mode _) =>
      if !mode.mayExecute then pure (.error .permissionDenied)
      else
        let directory := if isPhysical then placeName place else logical
        set { session with process := { process with place := place }, directory := directory }
        modify fun after =>
          (after.setOwn "OLDPWD".toList session.directory).setOwn "PWD".toList directory
        mark "OLDPWD".toList true false
        mark "PWD".toList true false
        pure (.ok ())
    | _ => pure (.error .notDirectory)

/-- The directories below which a path is looked for before its own. -/
def leadsFor (session : Session) (target : ByteText) : List ByteText :=
  let isFixed := ["/".toList, "./".toList, "../".toList].any fun lead =>
    lead.isPrefixOf (target ++ ['/'])
  if isFixed then [] else (((session.value? "CDPATH".toList).map (Text.split ':')).getD [])

/-- Whether a path leads to a directory. -/
def isDirectory (session : Session) (path : ByteText) : Bool :=
  session.process.machine.tree.leadsToDirectory session.process.place ⟨ByteText.asString path⟩

/-- Go to another directory. -/
def cd : Builtin := fun _ arguments => do
  let (options, operands) ← options (if (← get).hasExtras then "LPe@" else "LP") arguments
  let session ← get
  if session.hasExtras && 1 < operands.length then complain 1 "too many arguments".toList
  else
    let isPhysical := (options.getLast?.map Prod.fst) = some 'P'
    let failTo (target : ByteText) (error : SystemError) : Action Unit :=
      if session.hasExtras then complain 1 (remark target error.description)
      else fail ("can't cd to ".toList ++ target)
    let unknown? : Option ByteText := if session.hasExtras then none else some []
    let target? : Option (ByteText × Bool) := match operands with
      | [] => (session.value? "HOME".toList <|> unknown?).map fun home => (home, false)
      | ['-'] :: _ => (session.value? "OLDPWD".toList <|> unknown?).map fun old => (old, true)
      | target :: _ => some (target, false)
    match target? with
    | none =>
      complain 1 (if operands.isEmpty then "HOME not set" else "OLDPWD not set").toList
    | some (asked, isShown) =>
      let target := if asked.isEmpty then ['.'] else asked
      let candidate := (leadsFor session target).findSome? fun lead =>
        let path := if lead.isEmpty then target else lead ++ '/' :: target
        if isDirectory session path then some (path, !lead.isEmpty) else none
      let (path, isFound) := candidate.getD (target, false)
      match ← goTo isPhysical path with
      | .ok () =>
        setStatus 0
        if isShown || isFound then writeLine (← get).directory
      | .error error => failTo target error

/-- Write the directory. -/
def pwd : Builtin := fun _ arguments => do
  let (options, _) ← options "LP" arguments
  let session ← get
  if (options.getLast?.map Prod.fst) = some 'P' then
    writeOutput (placeName session.process.place ++ ['\n'])
  else writeOutput (session.directory ++ ['\n'])

/-! ### What new files may be -/

/-- A mask in letters, as what it leaves to everybody. -/
def maskInLetters (mask : Nat) : ByteText :=
  let rights (letter : Char) (shift : Nat) : ByteText :=
    letter :: '=' :: Mode.lettersOf ((0o777 ^^^ mask) / shift % 8)
  rights 'u' 64 ++ ',' :: rights 'g' 8 ++ ',' :: rights 'o' 1

/-- Show or set what is withheld from new files. -/
def umask : Builtin := fun _ arguments => do
  let (options, operands) ← options (if (← get).hasExtras then "pS" else "S") arguments
  let mask := (← get).process.mask
  match operands with
  | [] =>
    writeOutput ((if has 'S' options then maskInLetters mask else Mode.octal mask) ++ ['\n'])
  | text :: _ =>
    let isNumber := (text.head?.map Char.isDigit).getD false
    let changed : Option Nat :=
      if isNumber then (Mode.change? text 0 false ⟨0⟩).map Mode.bits
      else (Mode.change? text mask false ⟨0o777 ^^^ mask⟩).map fun mode =>
        0o777 ^^^ (mode.bits &&& 0o777)
    match changed with
    | some bits =>
      modify fun session =>
        { session with process := { session.process with mask := bits &&& 0o777 } }
      setStatus 0
    | none =>
      if (← get).hasExtras then
        if isNumber then fail (remark text "octal number out of range")
        else fail ('\x60' :: text.take 1 ++ "': invalid symbolic mode character".toList)
      else if isNumber then failNumber text
      else fail ("Illegal mode: ".toList ++ text)

/-- Show limits. There are none. -/
def ulimit : Builtin := fun _ arguments => do
  let (_, operands) ← options (if (← get).hasExtras then "HSatfdsmcnplvwrqiexRuTbkP" else "HSatfdscmlpnvwr") arguments
  if operands.isEmpty then writeOutput "unlimited\n".toList else setStatus 0

/-- Show the time that was used, which is none. -/
def times : Builtin := fun _ _ => do
  let line := if (← get).hasExtras then "0m0.000s 0m0.000s" else "0m0.000000s 0m0.000000s"
  writeOutput (ByteText.unlines [line.toList, line.toList])

/-! ### Conditions -/

/-- What a condition may look at. -/
def conditionSetting (session : Session) : Condition.Setting where
  process := session.process
  hasExtras := session.hasExtras
  isSet name := (session.parameter? name).isSome

/-- The words for a condition that makes no sense. -/
def faultText (hasExtras : Bool) : Condition.Fault → ByteText
  | .illegalNumber text =>
    if hasExtras then remark text "integer expression expected"
    else "Illegal number: ".toList ++ text
  | .argumentExpected operator =>
    if hasExtras then remark operator "unary operator expected"
    else remark operator "argument expected"
  | .unexpectedOperator operator => remark operator "unexpected operator"
  | .closingExpected =>
    if hasExtras then "\x60)' expected".toList else "closing paren expected".toList
  | .missingBracket => if hasExtras then "missing \x60]'".toList else "missing ]".toList
  | .tooManyArguments => "too many arguments".toList

/-- Complain about a condition that makes no sense. -/
def failCondition (fault : Condition.Fault) : Action Unit := do
  complain 2 (faultText (← get).hasExtras fault)
  throw .failing

/-- Decide a condition. -/
def test : Builtin := fun _ arguments => do
  let session ← get
  match Condition.decide? (conditionSetting session) arguments with
  | .ok value => setStatus (if value then 0 else 1)
  | .error fault =>
    match session.hasExtras, arguments, fault with
    | true, [first, _], .tooManyArguments =>
      complain 2 (remark first "unary operator expected")
    | true, [_, operator, _], .tooManyArguments =>
      complain 2 (remark operator "binary operator expected")
    | _, _, _ => failCondition fault

/-- Decide a condition in brackets. -/
def bracket : Builtin := fun interpreter arguments => do
  if arguments.getLast? = some [']'] then test interpreter arguments.dropLast
  else failCondition .missingBracket

/-! ### Short names -/

/-- A short name with the text it stands for. -/
def aliasText (hasExtras : Bool) (entry : ByteText × ByteText) : ByteText :=
  (if hasExtras then "alias ".toList else []) ++ entry.1 ++ '=' :: quoted entry.2

/-- Let names stand for other texts, or tell what they stand for. -/
def defineAliases : Builtin := fun _ arguments => do
  let session ← get
  let hasExtras := session.hasExtras
  setStatus 0
  if arguments.isEmpty then
    let ordered := session.aliases.mergeSort fun left right => chainOf left.1 ≤ chainOf right.1
    writeOutput (ByteText.unlines (ordered.map (aliasText hasExtras)))
  else
    for argument in ← operands arguments do
      let name := argument.takeWhile (· ≠ '=')
      match argument.drop name.length with
      | '=' :: text =>
        modify fun session => { session with
          aliases := session.aliases.filter (fun entry => entry.1 ≠ name) ++ [(name, text)] }
      | _ =>
        match (← get).aliases.find? fun entry => entry.1 = name with
        | some entry => write 1 (aliasText hasExtras entry ++ ['\n'])
        | none =>
          if hasExtras then complain 1 (remark argument "not found")
          else
            write 2 ("alias: ".toList ++ argument ++ " not found\n".toList)
            setStatus 1

/-- Forget short names. -/
def forgetAliases : Builtin := fun _ arguments => do
  let (options, operands) ← options "a" arguments
  setStatus 0
  if has 'a' options then modify fun session => { session with aliases := [] }
  for name in operands do
    let session ← get
    if session.aliases.any fun entry => entry.1 = name then
      set { session with aliases := session.aliases.filter fun entry => entry.1 ≠ name }
    else if session.hasExtras then complain 1 (remark name "not found")
    else
      write 2 ("unalias: ".toList ++ name ++ " not found\n".toList)
      setStatus 1

end CodeNavigator.Shell.Builtin
