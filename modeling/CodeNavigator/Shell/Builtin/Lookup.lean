/-
This file defines the commands of a shell that tell what a name means. A name may mean a keyword, a
text that it is short for, a function, a command of the shell or a program, and the first of these
counts.
-/

import CodeNavigator.Shell.Builtin.Basic

namespace CodeNavigator.Shell

/-- What a name means. -/
inductive Meaning
  | keyword
  | shortFor (text : ByteText)
  | function
  | builtin (isSpecial : Bool)
  | program (path : ByteText) (isRemembered : Bool)

/-- The commands of the shell whose failure ends a script. -/
def isSpecialName (name : ByteText) : Bool :=
  name = "local".toList || specialNames.any fun special => special.toList = name

/-- The program that a name means. -/
def programMeaning? (session : Session) (name : ByteText) : Option Meaning :=
  match session.findProgram session.searchDirectories name with
  | (path, .ok _) =>
    some (.program path (session.remembered.any fun entry => entry.1 = name))
  | _ => none

/-- What a name means to a shell that does some commands itself. -/
def meaning? (isBuiltin : ByteText → Bool) (session : Session) (name : ByteText) :
    Option Meaning :=
  let isKeyword := keywords.any (fun keyword => keyword.toList = name) ||
    (session.hasExtras && extraKeywords.any fun keyword => keyword.toList = name)
  let short? := if session.hasExtras && !session.hasOption aliasLetter then none
    else (session.aliases.find? fun entry => entry.1 = name).map Prod.snd
  if isKeyword then some .keyword
  else
    match short? with
    | some text => some (.shortFor text)
    | none =>
      if session.functions.any fun entry => entry.1 = name then some .function
      else if isBuiltin name then some (.builtin (isSpecialName name && !session.hasExtras))
      else programMeaning? session name

/-- A sentence about the meaning of a name. -/
def Meaning.sentence (hasExtras : Bool) (name : ByteText) : Meaning → ByteText
  | .keyword => name ++ " is a shell keyword".toList
  | .shortFor text =>
    if hasExtras then name ++ " is aliased to \x60".toList ++ text ++ ['\'']
    else name ++ " is an alias for ".toList ++ text
  | .function => name ++ (if hasExtras then " is a function" else " is a shell function").toList
  | .builtin true => name ++ " is a special shell builtin".toList
  | .builtin false => name ++ " is a shell builtin".toList
  | .program path isRemembered =>
    name ++ (if isRemembered then " is a tracked alias for " else " is ").toList ++ path

/-- The status of the question for a name that means nothing. -/
def Session.unknownStatus (session : Session) : Nat :=
  if session.hasExtras then 1 else 127

/-- One word for the meaning of a name. -/
def Meaning.kind : Meaning → String
  | .keyword => "keyword"
  | .shortFor _ => "alias"
  | .function => "function"
  | .builtin _ => "builtin"
  | .program _ _ => "file"

/-- What to write in a script for a name. -/
def Meaning.short (name : ByteText) : Meaning → ByteText
  | .shortFor text => "alias ".toList ++ name ++ '=' :: Builtin.quoted text
  | .program path _ => path
  | _ => name

/-- Remember the path of a program under its name. -/
def remember (name path : ByteText) : Action Unit :=
  modify fun session =>
    if name.contains '/' || session.remembered.any fun entry => entry.1 = name then session
    else { session with remembered := session.remembered ++ [(name, path)] }

namespace Builtin

section

variable (isBuiltin : ByteText → Bool)

/-- Tell about a name in a sentence, and tell whether it means anything. -/
def describe (name : ByteText) : Action Bool := do
  let session ← get
  match meaning? isBuiltin session name with
  | some meaning =>
    match meaning with
    | .program path _ => remember name path
    | _ => pure ()
    writeLine (meaning.sentence session.hasExtras name)
    pure true
  | none =>
    if session.hasExtras then warn (remark name "not found")
    else writeLine (remark name "not found")
    pure false

/-- Tell what names mean. -/
def type : Builtin := fun _ arguments => do
  let session ← get
  let (options, names) ← if session.hasExtras then options "afptP" arguments
    else pure ([], arguments)
  let mut isComplete := true
  for name in names do
    if has 't' options then
      match meaning? isBuiltin session name with
      | some meaning => writeLine meaning.kind.toList
      | none => isComplete := false
    else if has 'p' options || has 'P' options then
      match meaning? isBuiltin session name with
      | some (.program path _) => writeLine path
      | some _ => pure ()
      | none => isComplete := false
    else if !(← describe isBuiltin name) then isComplete := false
  setStatus (if isComplete then 0 else session.unknownStatus)

/-- Tell what names would start. This is what is left of the command that starts something without
regard to functions. -/
def command : Builtin := fun _ arguments => do
  let session ← get
  let (options, names) ← options "pvV" arguments
  let unknown := session.unknownStatus
  if has 'V' options then
    match names with
    | [] => setStatus 0
    | name :: _ => setStatus (if ← describe isBuiltin name then 0 else unknown)
  else
    let asked := if session.hasExtras then names else names.take 1
    let found := asked.filterMap fun name =>
      (meaning? isBuiltin session name).map fun meaning => (name, meaning)
    for (name, meaning) in found do
      match meaning with
      | .program path _ => remember name path
      | _ => pure ()
      writeLine (meaning.short name)
    setStatus (if found.isEmpty && !asked.isEmpty then unknown else 0)

/-- Remember the paths of programs, or list those that are remembered. -/
def hash : Builtin := fun _ arguments => do
  let (options, names) ← options (if (← get).hasExtras then "rdtlp:" else "rv") arguments
  setStatus 0
  if has 'r' options then modify fun session => { session with remembered := [] }
  else if names.isEmpty then
    let session ← get
    if session.hasExtras then
      writeOutput (if session.remembered.isEmpty then "hash: hash table empty\n".toList else [])
    else writeOutput (ByteText.unlines (session.remembered.map Prod.snd))
  else
    for name in names do
      let session ← get
      match meaning? isBuiltin session name with
      | some (.program path _) => remember name path
      | some _ => pure ()
      | none => complain 1 (remark name "not found")

end

end Builtin

end CodeNavigator.Shell
