/-
This file defines the program that edits texts line by line by a script. For each line the commands
run in order over a text that begins as the line, and what it has become is written at the end. A
second text is kept from line to line. What is to follow a line waits until the line is done with.
-/

import CodeNavigator.Editing.Reading
import CodeNavigator.Utility.Basic

namespace CodeNavigator.Utility

open Editing

namespace Sed

/-! ### Editors -/

/-- What waits to be written behind a line. -/
inductive Waiting
  | text (text : ByteText)
  | file (path : ByteText)

/-- How an editor works: the call that it answers, the script, whether lines are written only if a
command says so, and the character that ends them. -/
structure Setting where
  call : Call
  script : Script
  isSilent : Bool
  lineEnd : Char

/-- What an editor knows: the text that is edited, whether it had an end and was the last, the text
that is kept, the number of the line, the inputs that are left, what waits, whether anything was
replaced since the line was read, the ranges that are open with the lines they end at, the pattern
that was used last, the pieces of output with the latest first, whether the last of them lacks its
end, and the files that are written to. -/
structure Editor where
  space : ByteText
  hasEnd : Bool
  isLast : Bool
  held : ByteText
  number : Nat
  inputs : List ByteText
  waiting : List Waiting
  isReplaced : Bool
  ranges : List (Nat × Option Nat)
  lastPattern : Option Pattern
  output : List ByteText
  lacksEnd : Bool
  targets : List (ByteText × Nat)

/-- A step of editing. -/
abbrev Edit := StateT Editor Job

section

variable (setting : Setting)

/-! ### Output -/

/-- Write a text as it stands, behind the end that the last one lacks. -/
def putText (text : ByteText) : Edit Unit :=
  modify fun editor =>
    { editor with
      output := text :: if editor.lacksEnd then [setting.lineEnd] :: editor.output else editor.output
      lacksEnd := false }

/-- Write a line. The one whose end is missing is written without it. -/
def putLine (text : ByteText) (hasEnd : Bool) : Edit Unit := do
  putText setting (if hasEnd then text ++ [setting.lineEnd] else text)
  modify fun editor => { editor with lacksEnd := !hasEnd }

/-- Write the text that is edited. -/
def putSpace : Edit Unit := do
  let editor ← get
  putLine setting editor.space editor.hasEnd

/-- Write a line to a file. -/
def putTarget (path text : ByteText) : Edit Unit := do
  if path = "/dev/stdout".toList then putLine setting text true
  else
    let editor ← get
    match editor.targets.lookup path with
    | some index =>
      match (← getThe Process).machine.files[index]? with
      | some file =>
        let _ ← Job.writeTo index file (text ++ [setting.lineEnd])
      | none => pure ()
    | none => pure ()

/-- Write what waits. -/
def putWaiting : Edit Unit := do
  for entry in (← get).waiting.reverse do
    match entry with
    | .text text => putText setting text
    | .file path =>
      match ← readInput path with
      | .ok text => if !text.isEmpty then putText setting text
      | .error _ => pure ()
  modify fun editor => { editor with waiting := [] }

/-! ### Input -/

/-- Whether there is no other line. -/
def isAtEnd : Edit Bool := do
  pure ((← get).inputs.all List.isEmpty)

/-- Take the next line out of the inputs. -/
def takeLine : Edit ByteText := do
  let editor ← get
  match editor.inputs.dropWhile List.isEmpty with
  | [] => pure []
  | text :: others =>
    let line := text.takeWhile (· ≠ setting.lineEnd)
    let rest := text.drop line.length
    let left := (rest.drop 1) :: others
    set { editor with
      inputs := left
      number := editor.number + 1
      hasEnd := !rest.isEmpty || others.any fun other => !other.isEmpty
      isLast := left.all List.isEmpty }
    pure line

/-! ### Selections -/

/-- The pattern that is meant, where an empty one means the one that was used last. -/
def patternOf (written : Option Pattern) : Edit Pattern := do
  match written, (← get).lastPattern with
  | some pattern, _ =>
    modify fun editor => { editor with lastPattern := some pattern }
    pure pattern
  | none, some pattern => pure pattern
  | none, none =>
    fail setting.call 1
      ("-e expression #1, char 0: ".toList ++ Fault.noPattern.message)

/-- Whether the text matches a pattern. -/
def fits (written : Option Pattern) : Edit Bool := do
  let pattern ← patternOf setting written
  pure (pattern.expression.search pattern.ignoresCase (← get).space 0).isSome

/-- Whether the line is meant by an address. -/
def isMeant (address : Address) : Edit Bool := do
  let editor ← get
  match address with
  | .line number => pure (editor.number = number)
  | .last => pure editor.isLast
  | .stepped first step =>
    pure (first ≤ editor.number && (editor.number - first) % step = 0)
  | .pattern written => fits setting written

/-- Open a range that ends at a line, or at one that has to be looked at. -/
def openRange (index : Nat) (finish : Option Nat) : Edit Unit :=
  modify fun editor => { editor with ranges := (index, finish) :: editor.ranges }

def closeRange (index : Nat) : Edit Unit :=
  modify fun editor =>
    { editor with ranges := editor.ranges.filter fun range => range.1 ≠ index }

/-- Whether the line lies in a range. -/
def isInRange (index : Nat) (first : Address) (bound : Bound) (beginsEarly : Bool) :
    Edit Bool := do
  let editor ← get
  let isOpen := if beginsEarly && editor.number = 1 then some none
    else editor.ranges.lookup index
  if beginsEarly && editor.number = 1 then openRange index none
  match isOpen with
  | some (some finish) =>
    if finish ≤ editor.number then closeRange index
    pure (editor.number ≤ finish)
  | some none =>
    let isOver ← match bound with
      | .pattern written => fits setting written
      | _ => pure editor.isLast
    if isOver then closeRange index
    pure true
  | none =>
    if ← isMeant setting first then
      let finish := match bound with
        | .line number => some number
        | .further count => some (editor.number + count)
        | .multiple divisor =>
          some (if divisor = 0 then 0 else (editor.number / divisor + 1) * divisor)
        | .last | .pattern _ => none
      if finish.all (editor.number < ·) then openRange index finish
      pure true
    else pure false

/-- Whether a command is bound to the line. -/
def isSelected (index : Nat) (selection : Selection) : Edit Bool := do
  let isIn ← match selection.first, selection.bound with
    | none, _ => pure true
    | some first, none => isMeant setting first
    | some first, some bound => isInRange setting index first bound selection.beginsEarly
  pure (isIn != selection.isNegated)

/-! ### Substitutions -/

/-- A text with its letters changed, and what is asked of the letters that follow. -/
def cased (lasting : Casing) (once : Option Casing) (text : ByteText) :
    ByteText × Option Casing :=
  let changed := match lasting with
    | .upper => text.map Char.toUpper
    | .lower => text.map Char.toLower
    | _ => text
  match changed, once with
  | first :: rest, some .upperOnce => (first.toUpper :: rest, none)
  | first :: rest, some .lowerOnce => (first.toLower :: rest, none)
  | _, _ => (changed, once)

/-- What a match is replaced by. -/
def replacementOf (group : Nat → ByteText) :
    Casing → Option Casing → List Piece → ByteText
  | _, _, [] => []
  | lasting, once, .text text :: rest =>
    let (shown, once) := cased lasting once text
    shown ++ replacementOf group lasting once rest
  | lasting, once, .group number :: rest =>
    let (shown, once) := cased lasting once (group number)
    shown ++ replacementOf group lasting once rest
  | lasting, once, .casing casing :: rest =>
    if casing = .upperOnce || casing = .lowerOnce then
      replacementOf group lasting (some casing) rest
    else replacementOf group casing once rest

/-- A text with some of the matches in it replaced. -/
def replaced (subject : ByteText) (pieces : List Piece) :
    Nat → List RegularExpression.Match → ByteText
  | position, [] => subject.drop position
  | position, found :: rest =>
    (subject.drop position).take (found.start - position) ++
      replacementOf (found.text subject) .asWritten none pieces ++
      replaced subject pieces found.finish rest

/-- Replace what a substitution asks for. -/
def substitute (substitution : Substitution) : Edit Unit := do
  let pattern ← patternOf setting substitution.pattern
  let subject := (← get).space
  let isFirst := substitution.number = 1 && !substitution.isGlobal
  let found := if isFirst then (pattern.expression.search pattern.ignoresCase subject 0).toList
    else pattern.expression.allMatches pattern.ignoresCase subject
  let later := found.drop (substitution.number - 1)
  let meant := if substitution.isGlobal then later else later.take 1
  if !meant.isEmpty then
    let text := replaced subject substitution.pieces 0 meant
    modify fun editor => { editor with space := text, isReplaced := true }
    if substitution.isPrinting then putSpace setting
    match substitution.target with
    | some path => putTarget setting path text
    | none => pure ()

/-! ### Unfolding -/

/-- A character as it is unfolded. -/
def unfolded (character : Char) : ByteText :=
  match letterEscapes.find? fun entry => entry.2 = character with
  | some (letter, _) => ['\\', letter]
  | none =>
    if character = '\x08' then ['\\', 'b']
    else if character = '\\' then ['\\', '\\']
    else if ' ' ≤ character && character ≤ '~' then [character]
    else '\\' :: ByteText.padLeft '0' 3 (Nat.toDigits 8 character.toNat)

/-- Unfolded characters in lines that are not wider than allowed. -/
def wrapped (width : Nat) : Nat → List ByteText → ByteText
  | _, [] => ['$', '\n']
  | column, piece :: rest =>
    if 1 < width && width - 1 < column + piece.length then
      "\\\n".toList ++ piece ++ wrapped width piece.length rest
    else piece ++ wrapped width (column + piece.length) rest

/-! ### Commands -/

/-- How a script goes on: at a command, with the next line with or without writing the text, with the
same text, or not at all. -/
inductive Course
  | goOn (index : Nat)
  | finish
  | drop
  | restart
  | quit (status : Nat)

/-- Join a text behind another one with the end of a line between them. -/
def joined (first second : ByteText) : ByteText :=
  first ++ setting.lineEnd :: second

/-- Do what a command does that is only a letter. -/
def runPlain (index : Nat) (letter : Char) : Edit Course := do
  let editor ← get
  let goOn : Course := .goOn (index + 1)
  let head := editor.space.takeWhile (· ≠ setting.lineEnd)
  match letter with
  | '=' =>
    putText setting (ByteText.ofNat editor.number ++ ['\n'])
    pure goOn
  | 'd' => pure .drop
  | 'D' =>
    if head.length = editor.space.length then pure .drop
    else
      set { editor with space := editor.space.drop (head.length + 1) }
      pure .restart
  | 'F' =>
    putText setting "-\n".toList
    pure goOn
  | 'g' =>
    set { editor with space := editor.held }
    pure goOn
  | 'G' =>
    set { editor with space := joined setting editor.space editor.held }
    pure goOn
  | 'h' =>
    set { editor with held := editor.space }
    pure goOn
  | 'H' =>
    set { editor with held := joined setting editor.held editor.space }
    pure goOn
  | 'n' =>
    if ← isAtEnd then pure .finish
    else
      if !setting.isSilent then putSpace setting
      putWaiting setting
      let line ← takeLine setting
      modify fun editor => { editor with space := line }
      pure goOn
  | 'N' =>
    if ← isAtEnd then pure .finish
    else
      putWaiting setting
      let line ← takeLine setting
      modify fun editor => { editor with space := joined setting editor.space line }
      pure goOn
  | 'p' =>
    putSpace setting
    pure goOn
  | 'P' =>
    putLine setting head true
    pure goOn
  | 'x' =>
    set { editor with space := editor.held, held := editor.space }
    pure goOn
  | 'z' =>
    set { editor with space := [] }
    pure goOn
  | _ => pure goOn

/-- Do what a command does with a line that it is bound to. -/
def runAction (index : Nat) (command : Editing.Command) : Edit Course := do
  let goOn : Course := .goOn (index + 1)
  match command.action with
  | .openBlock _ | .closeBlock | .label _ => pure goOn
  | .jump condition name =>
    let isReplaced := (← get).isReplaced
    if condition.isSome then modify fun editor => { editor with isReplaced := false }
    if condition.all (· = isReplaced) then
      pure (.goOn ((setting.script.labelIndex? name).getD setting.script.size))
    else pure goOn
  | .substitute substitution =>
    substitute setting substitution
    pure goOn
  | .transliterate pairs =>
    modify fun editor =>
      { editor with
        space := editor.space.map fun character => (pairs.lookup character).getD character }
    pure goOn
  | .insert text =>
    putText setting text
    pure goOn
  | .append text =>
    modify fun editor => { editor with waiting := .text text :: editor.waiting }
    pure goOn
  | .change text =>
    let isWithin := (← get).ranges.any fun range => range.1 = index
    if !isWithin || command.selection.isNegated then putText setting text
    pure .drop
  | .readFile path =>
    modify fun editor => { editor with waiting := .file path :: editor.waiting }
    pure goOn
  | .writeFile path isFirstLine =>
    let space := (← get).space
    putTarget setting path
      (if isFirstLine then space.takeWhile (· ≠ setting.lineEnd) else space)
    pure goOn
  | .quit status isPrinting =>
    if isPrinting then
      if !setting.isSilent then putSpace setting
      putWaiting setting
    pure (.quit status)
  | .unfold width =>
    let column := width.getD 70
    putText setting (wrapped column 0 ((← get).space.map unfolded))
    pure goOn
  | .plain letter => runPlain setting index letter

/-- Run the commands from one on. -/
def runFrom : Nat → Nat → Edit Course
  | 0, _ => Job.waitForever
  | limit + 1, index => do
    match setting.script[index]? with
    | none => pure .finish
    | some command =>
      let course ←
        if ← isSelected setting index command.selection then runAction setting index command
        else
          match command.action with
          | .openBlock past => pure (.goOn past)
          | _ => pure (.goOn (index + 1))
      match course with
      | .goOn index => runFrom limit index
      | other => pure other

/-- How many commands may run for one line. -/
def stepLimit : Nat := 1000000

/-- Edit the lines that are left, at most so many. The flag says that the text of the last one is
kept. -/
def runLines : Nat → Bool → Edit Nat
  | 0, _ => Job.waitForever
  | limit + 1, isKept => do
    if !isKept && (← isAtEnd) then pure 0
    else
      if !isKept then
        let line ← takeLine setting
        modify fun editor => { editor with space := line, isReplaced := false }
      match ← runFrom setting stepLimit 0 with
      | .quit status => pure status
      | .restart =>
        putWaiting setting
        runLines limit true
      | course =>
        match course with
        | .finish => if !setting.isSilent then putSpace setting
        | _ => pure ()
        putWaiting setting
        runLines limit false

end

/-- An editor before its first line. -/
def startingEditor (targets : List (ByteText × Nat)) (inputs : List ByteText) : Editor where
  space := []
  hasEnd := true
  isLast := false
  held := []
  number := 0
  inputs := inputs
  waiting := []
  isReplaced := false
  ranges := []
  lastPattern := none
  output := []
  lacksEnd := false
  targets := targets

/-- Edit some inputs. The answer is the status, the output and what is left of the inputs. -/
def edit (setting : Setting) (targets : List (ByteText × Nat)) (inputs : List ByteText) :
    Job (Nat × ByteText × List ByteText) := do
  let length := (inputs.map List.length).foldl (· + ·) 0
  let (status, editor) ← (runLines setting (2 * length + 2) false).run
    (startingEditor targets inputs)
  pure (status, editor.output.reverse.flatten, editor.inputs)

/-! ### Scripts -/

/-- The options of `sed`. -/
def options : OptionSet where
  letters := "bsnrzuEe:f:l:i::V:h"
  names := [("quiet", .nothing, 'n'), ("silent", .nothing, 'n'), ("expression", .required, 'e'),
    ("file", .required, 'f'), ("follow-symlinks", .nothing, '!'), ("in-place", .optional, 'i'),
    ("line-length", .required, 'l'), ("posix", .nothing, 'p'), ("regexp-extended", .nothing, 'E'),
    ("separate", .nothing, 's'), ("sandbox", .nothing, 'S'), ("unbuffered", .nothing, 'u'),
    ("null-data", .nothing, 'z'), ("zero-terminated", .nothing, 'z'), ("debug", .nothing, 'd'),
    ("binary", .nothing, 'b')]
  usage := some fun name =>
    "Usage: ".toList ++ name ++
      " [OPTION]... \x7bscript-only-if-no-other-script\x7d [input-file]...\n\n".toList

/-- A part of a script, and the file that it comes from. -/
structure Part where
  file : Option ByteText
  text : ByteText

/-- Read the parts of the script that options give. -/
def readParts (call : Call) (chosen : Chosen) : Job (List Part) :=
  (chosen.filter fun option => option.1 = 'e' || option.1 = 'f').mapM fun (letter, value) => do
    if letter = 'e' then pure ⟨none, value⟩
    else
      match ← readInput value with
      | .ok text => pure ⟨some value, ByteText.withoutEnd text⟩
      | .error error =>
        fail call 4 ("couldn't open file ".toList ++ fault value error)

/-- Where a position in a whole script lies: behind which words a fault is told. -/
def positionText (isOfWhole : Bool) : Nat → Nat → List Part → ByteText
  | _, _, [] => []
  | number, position, part :: rest =>
    let isHere := position ≤ part.text.length || rest.isEmpty
    let nextNumber := if part.file.isNone then number + 1 else number
    if isHere then
      match part.file with
      | none =>
        "-e expression #".toList ++ ByteText.ofNat number ++ ", char ".toList ++
          ByteText.ofNat (if isOfWhole then 0 else min position part.text.length)
      | some file =>
        let before := (part.text.take (position - 1)).filter (· = '\n')
        "file ".toList ++ file ++ " line ".toList ++ ByteText.ofNat (before.length + 1)
    else positionText isOfWhole nextNumber (position - part.text.length - 1) rest

/-- Read the whole script. -/
def readScript (call : Call) (isExtended : Bool) (parts : List Part) : Job Script := do
  match Editing.read isExtended (Text.join '\n' (parts.map Part.text)) with
  | .error (fault, position) =>
    let isOfWhole := match fault with
      | .openBlock => true
      | _ => false
    fail call 1 (positionText isOfWhole 1 position parts ++ ": ".toList ++ fault.message)
  | .ok script =>
    match script.missingLabel? with
    | some name =>
      fail call 4 ("can't find label for jump to \x60".toList ++ name ++ ['\''])
    | none => pure script

/-- Open the files that a script writes to. -/
def openTargets (call : Call) (script : Script) : Job (List (ByteText × Nat)) :=
  (script.targets.foldl (fun kept path => if kept.contains path then kept else kept ++ [path])
    []).mapM fun path => do
      match ← Job.openPath path (.replacing false) with
      | .ok index => pure (path, index)
      | .error error => fail call 4 ("couldn't open file ".toList ++ fault path error)

/-! ### Inputs -/

/-- Put back what was read from the standard input and not used, if that is a file. -/
def putBack (length : Nat) : Job Unit := do
  match ← Job.openFile? 0 with
  | some (index, file) =>
    match file.medium with
    | .file _ => Job.setPosition index (file.position - length)
    | _ => pure ()
  | none => pure ()

/-- Read an input. One that cannot be read is left out, and a directory ends the program. -/
def readSource (call : Call) (path : ByteText) : Job (Option ByteText) := do
  match ← readInput path with
  | .ok text => pure (some text)
  | .error .isDirectory =>
    fail call 4 ("read error on ".toList ++ fault path .isDirectory)
  | .error error =>
    complain call ("can't read ".toList ++ fault path error)
    pure none

/-- The name of the file in which the old content is kept. -/
def backupName (path ending : ByteText) : ByteText :=
  let name := lastName path
  let lead := path.take (path.length - name.length)
  if ending.contains '*' then
    let made := ending.flatMap fun character => if character = '*' then name else [character]
    if made.contains '/' then made else lead ++ made
  else path ++ ending

/-- Put a text in place of the content of a file. -/
def replaceContent (call : Call) (path text : ByteText) : Job Unit := do
  match ← Job.openPath path (.replacing false) with
  | .ok index =>
    match (← get).machine.files[index]? with
    | some file =>
      let _ ← Job.writeTo index file text
    | none => pure ()
  | .error error => fail call 4 ("couldn't open file ".toList ++ fault path error)

/-- Edit each file by itself and put the outcome in its place. The status is that of a script which
ended by itself, if one did. -/
def editInPlace (setting : Setting) (targets : List (ByteText × Nat)) (ending : ByteText) :
    List ByteText → Job Nat
  | [] => pure 0
  | path :: rest => do
    match ← find path with
    | .error error =>
      complain setting.call ("can't read ".toList ++ fault path error)
      let _ ← editInPlace setting targets ending rest
      pure 2
    | .ok (.file _ _) =>
      let text := (← readSource setting.call path).getD []
      let (status, output, left) ← edit setting targets [text]
      if !ending.isEmpty then replaceContent setting.call (backupName path ending) text
      replaceContent setting.call path (output ++ left.flatten)
      if status ≠ 0 || left.any (fun text => !text.isEmpty) then pure status
      else editInPlace setting targets ending rest
    | .ok _ => fail setting.call 4 ("couldn't edit ".toList ++ path ++ ": not a regular file".toList)

/-- Edit some inputs one after the other. -/
def editSeparately (setting : Setting) (targets : List (ByteText × Nat)) :
    List ByteText → Job Nat
  | [] => pure 0
  | text :: rest => do
    let (status, output, left) ← edit setting targets [text]
    emit setting.call output
    if status ≠ 0 || left.any (fun text => !text.isEmpty) then pure status
    else editSeparately setting targets rest

end Sed

/-- Edit the inputs by a script. -/
def sed : Utility := fun call => do
  let (chosen, operands) ← readOptions call 1 Sed.options
  let given ← Sed.readParts call chosen
  let (parts, paths) ← match given, operands with
    | [], [] => do
      Job.put 2 ((Sed.options.usage.map fun usage => usage call.name).getD [])
      throw (.exited 1)
    | [], script :: paths => pure ([Sed.Part.mk none script], paths)
    | parts, paths => pure (parts, paths)
  let script ← Sed.readScript call (chosen.has 'E' || chosen.has 'r') parts
  let isMarked := parts.head?.any fun part =>
    part.text = ['#', 'n'] || "#n\n".toList.isPrefixOf part.text
  let targets ← Sed.openTargets call script
  let setting : Sed.Setting :=
    ⟨call, script, chosen.has 'n' || isMarked, if chosen.has 'z' then '\x00' else '\n'⟩
  if chosen.has 'i' then
    Sed.editInPlace setting targets ((chosen.value? 'i').getD []) paths
  else
    let read ← (inputsOf paths).mapM (Sed.readSource call)
    let inputs := read.filterMap id
    let missing := if read.any Option.isNone then 2 else 0
    let status ←
      if chosen.has 's' then Sed.editSeparately setting targets inputs
      else
        let (status, output, left) ← Sed.edit setting targets inputs
        if paths.isEmpty then Sed.putBack left.flatten.length
        emit call output
        pure status
    pure (if status = 0 then missing else status)

end CodeNavigator.Utility
