/-
This file defines the program that walks through file trees and asks something of each file. A
directory is read when it is reached, so what was done with files before shows. Commands that take
many files at once are run at the end.
-/

import CodeNavigator.Selection.Reading
import CodeNavigator.Utility.Files
import CodeNavigator.Utility.Paths
import CodeNavigator.Utility.Running

namespace CodeNavigator.Utility

open Selection

namespace Selecting

/-! ### Walks -/

/-- A file on a walk: the path that the walk began with, the path of the file, the number of
directories between them, and what stands there. -/
structure Visit where
  origin : ByteText
  path : ByteText
  depth : Nat
  tree : FileTree

/-- A walk so far: whether the directory at hand is left out, whether the walk is over, the files that
commands have collected, with the commands, and whether all went well. -/
structure Progress where
  isPruned : Bool
  isOver : Bool
  collected : List (Nat × Order × List ByteText)
  isWell : Bool

/-- A step of a walk. -/
abbrev Walk := StateT Progress Job

section

variable (start : Start) (call : Call)

/-- Say what went wrong. -/
def regret (message : ByteText) : Walk Unit := do
  complain call message
  modify fun progress => { progress with isWell := false }

/-! ### Formats -/

/-- What is known of a file, by letters. Some things are not told. -/
def detail? (visit : Visit) : Char → Option ByteText
  | 'p' => some visit.path
  | 'f' => some (lastName visit.path)
  | 'h' =>
    let path := visit.path
    some (if path.contains '/' then directoryName path else ['.'])
  | 'H' => some visit.origin
  | 'P' => some ((visit.path.drop visit.origin.length).dropWhile (· = '/'))
  | 'd' => some (ByteText.ofNat visit.depth)
  | 's' => some (ByteText.ofNat (sizeOf visit.tree))
  | 'm' => some (Nat.toDigits 8 (modeOf visit.tree))
  | 'M' => some (kindLetter visit.tree :: modeLetters (modeOf visit.tree))
  | 'y' => some [if kindLetter visit.tree = '-' then 'f' else kindLetter visit.tree]
  | 'l' => some (match visit.tree with
    | .link target => ByteText.ofString target.text
    | _ => [])
  | 'n' => some (ByteText.ofNat (linkCount visit.tree))
  | 'u' | 'g' => some ownerName.toList
  | 'U' | 'G' => some ownerNumber.toList
  | 'b' => some (ByteText.ofNat ((sizeOf visit.tree + 4095) / 4096 * 8))
  | 'k' => some (ByteText.ofNat ((sizeOf visit.tree + 4095) / 4096 * 4))
  | _ => none

/-- The letter for the kind of what a path leads to. -/
def reachedKind (path : ByteText) : Job Char := do
  match ← find path with
  | .ok tree => pure (if kindLetter tree = '-' then 'f' else kindLetter tree)
  | .error .tooManyLinks => pure 'L'
  | .error _ => pure 'N'

/-- Fill a template with what is known of a file. -/
def filled (visit : Visit) : Nat → ByteText → Walk ByteText
  | 0, _ => pure []
  | limit + 1, template =>
    match template with
    | [] => pure []
    | '\\' :: 'c' :: _ => pure []
    | '\\' :: mark :: rest => do
      let digits := (mark :: rest).take 3 |>.takeWhile fun digit => '0' ≤ digit && digit ≤ '7'
      if digits.isEmpty then
        let known : List (Char × Char) := [('n', '\n'), ('t', '\t'), ('\\', '\\'), ('a', '\x07'),
          ('b', '\x08'), ('f', '\x0c'), ('r', '\r'), ('v', '\x0b')]
        match known.find? fun entry => entry.1 = mark with
        | some (_, character) => return character :: (← filled visit limit rest)
        | none =>
          complain call ("warning: unrecognized escape \x60\\".toList ++ [mark, '\''])
          return '\\' :: mark :: (← filled visit limit rest)
      else
        let value := digits.foldl (fun value digit => value * 8 + (digit.toNat - 48)) 0
        return Char.ofNat (value % 256) :: (← filled visit limit ((mark :: rest).drop digits.length))
    | '%' :: '%' :: rest => do
      return '%' :: (← filled visit limit rest)
    | '%' :: rest => do
      let flags := rest.takeWhile fun flag => flag.isDigit || ['-', '.', '#', '+', ' '].contains flag
      match rest.drop flags.length with
      | letter :: after =>
        let found ← if letter = 'Y' then do pure (some [← reachedKind visit.path])
          else pure (detail? visit letter)
        match found with
        | some text =>
          let width := (Text.readDigits (flags.filter Char.isDigit)).getD 0
          let padded := if flags.contains '-' then ByteText.padRight width text
            else ByteText.padLeft ' ' width text
          return padded ++ (← filled visit limit after)
        | none =>
          complain call ("warning: unrecognized format directive \x60%".toList ++ [letter, '\''])
          return '%' :: letter :: (← filled visit limit after)
      | [] => pure ['%']
    | character :: rest => do
      return character :: (← filled visit limit rest)

/-! ### Deeds -/

/-- The mark that stands for a file in the words of a command. -/
def fileMark : ByteText :=
  "\x7b\x7d".toList

/-- The words of a command with a file in the place of the mark. -/
def wordsFor (order : Order) (path : ByteText) : List ByteText :=
  order.words.map fun word => replaceMark fileMark path (word.length + 1) word

/-- The path of a file from the directory that it stands in. -/
def placedPath (order : Order) (path : ByteText) : ByteText :=
  if order.isInPlace then "./".toList ++ lastName path else path

/-- Run a command where it is to be run, and tell whether it went well. -/
def runWords (order : Order) (path : ByteText) (words : List ByteText) : Walk Bool := do
  match words with
  | [] => pure false
  | name :: arguments =>
    let before := (← getThe Process).place
    if order.isInPlace then
      let directory := if path.contains '/' then directoryName path else ['.']
      let process ← getThe Process
      match process.machine.tree.locate process.place (pathOf directory) with
      | .ok place => modifyThe Process fun process => { process with place := place }
      | .error _ => pure ()
    let result ← run start name arguments
    modifyThe Process fun process => { process with place := before }
    match result with
    | .ok (.exited 0) => pure true
    | .ok _ => pure false
    | .error error =>
      complain call (fault ('\'' :: name ++ ['\'']) error)
      pure false

/-- Remove a file, and tell whether that was possible. -/
def deleteFile (visit : Visit) : Walk Bool := do
  if visit.path = ['.'] then pure true
  else
    let remove := if visit.tree.isDirectory then FileTree.removeDirectory
      else FileTree.removeFile
    match ← Job.changeTree fun tree place => remove tree place (pathOf visit.path) with
    | .ok () => pure true
    | .error error =>
      regret call ("cannot delete ".toList ++ fault ('\'' :: visit.path ++ ['\'']) error)
      pure false

/-- Write something at the end of a file. -/
def writeTo (path text : ByteText) : Walk Unit := do
  match ← Job.openPath path .appending with
  | .ok index =>
    match (← getThe Process).machine.files[index]? with
    | some file =>
      let _ ← Job.writeTo index file text
    | none => pure ()
  | .error error => regret call (fault ('\'' :: path ++ ['\'']) error)

/-- Do something with a file, and tell whether it went well. -/
def perform (visit : Visit) : Deed → Walk Bool
  | .print lineEnd => do
    emit call (visit.path ++ [lineEnd])
    pure true
  | .printTo path lineEnd => do
    writeTo call path (visit.path ++ [lineEnd])
    pure true
  | .format template => do
    emit call (← filled call visit (template.length + 1) template)
    pure true
  | .formatTo path template => do
    writeTo call path (← filled call visit (template.length + 1) template)
    pure true
  | .run order => do
    let shownPath := placedPath order visit.path
    runWords start call order visit.path (wordsFor order shownPath)
  | .collect index order => do
    modify fun progress =>
      let before := ((progress.collected.find? fun entry => entry.1 = index).map
        fun entry => entry.2.2).getD []
      let others := progress.collected.filter fun entry => entry.1 ≠ index
      { progress with collected := others ++ [(index, order, before ++ [visit.path])] }
    pure true
  | .ask order => do
    Job.put 2 ("< ".toList ++ order.words.headD [] ++ " ... ".toList ++ visit.path ++
      " > ? ".toList)
    let answer ← match ← Job.readPart 0 fun text => (text.takeWhile (· ≠ '\n')).length + 1 with
      | .ok text => pure text
      | .error _ => pure []
    if answer.head? = some 'y' || answer.head? = some 'Y' then
      runWords start call order visit.path (wordsFor order (placedPath order visit.path))
    else pure false
  | .delete => deleteFile call visit
  | .prune => do
    modify fun progress => { progress with isPruned := true }
    pure true
  | .quit => do
    modify fun progress => { progress with isOver := true }
    pure true

/-! ### Tests -/

/-- Whether a file is of one of some kinds. -/
def isOfKind (letters : List Char) (tree : FileTree) : Bool :=
  let letter := kindLetter tree
  letters.contains (if letter = '-' then 'f' else letter)

/-- Whether a text fits a pattern, in whatever case if cases do not count. -/
def fitsText (pattern : Wildcard) (ignoresCase : Bool) (text : ByteText) : Bool :=
  pattern.fits (if ignoresCase then text.map Char.toLower else text)

/-- Whether there is nothing in a file or a directory. -/
def isVoid : FileTree → Bool
  | .directory _ entries => entries.isEmpty
  | .file _ content => content.isEmpty
  | _ => false

/-- What a file is for all that may be done with it. -/
def modeReached (path : ByteText) : Job Mode := do
  match ← find path with
  | .ok tree => pure ⟨modeOf tree⟩
  | .error _ => pure ⟨0⟩

/-- Ask something of a file. What is done counts as long as the walk is not over. -/
def holds (visit : Visit) : Test → Walk Bool
  | .constant value => pure value
  | .name pattern ignoresCase => pure (fitsText pattern ignoresCase (lastName visit.path))
  | .path pattern ignoresCase => pure (fitsText pattern ignoresCase visit.path)
  | .target pattern ignoresCase =>
    match visit.tree with
    | .link target => pure (fitsText pattern ignoresCase (ByteText.ofString target.text))
    | _ => pure false
  | .kinds letters followsLink => do
    match followsLink, visit.tree with
    | true, .link _ =>
      match ← find visit.path with
      | .ok tree => pure (isOfKind letters tree)
      | .error _ => pure (letters.contains 'l')
    | _, tree => pure (isOfKind letters tree)
  | .isEmpty => pure (isVoid visit.tree)
  | .size bound unit => pure (bound.holds ((sizeOf visit.tree + unit - 1) / unit))
  | .age bound => pure (bound.holds 0)
  | .links bound => pure (bound.holds (linkCount visit.tree))
  | .mode check bits =>
    let own := modeOf visit.tree
    match check with
    | .exactly => pure (own = bits)
    | .all => pure (own &&& bits = bits)
    | .any => pure (bits = 0 || own &&& bits ≠ 0)
  | .mayRead => do pure (← modeReached visit.path).mayRead
  | .mayWrite => do pure (← modeReached visit.path).mayWrite
  | .mayExecute => do pure (← modeReached visit.path).mayExecute
  | .sameAs path => do
    let process ← getThe Process
    let place (path : ByteText) := process.machine.tree.locateLink process.place (pathOf path)
    match place visit.path, place path with
    | .ok left, .ok right => pure (left = right)
    | _, _ => pure false
  | .owner name => pure (name = ownerName.toList || name = ownerNumber.toList)
  | .deed action => perform start call visit action
  | .negation test => do
    let value ← holds visit test
    pure !value
  | .both first second => do
    let value ← holds visit first
    if value && !(← get).isOver then holds visit second else pure false
  | .either first second => do
    let value ← holds visit first
    if value || (← get).isOver then pure true else holds visit second
  | .sequence first second => do
    let _ ← holds visit first
    if (← get).isOver then pure true else holds visit second

/-! ### Walking -/

/-- What stands at a path of a walk. A link that leads nowhere counts as a link. -/
def stand (followsLinks : Bool) (path : ByteText) : Job (Except SystemError FileTree) := do
  match followsLinks, ← findLink path with
  | true, .ok (.link target) =>
    match ← find path with
    | .ok tree => pure (.ok tree)
    | .error _ => pure (.ok (.link target))
  | _, found => pure found

/-- Ask something of a file and of all that is below it, at most so deep. -/
def visitFrom (course : Course) (test : Test) : Nat → ByteText → Nat → ByteText → Walk Unit
  | 0, _, _, _ => pure ()
  | limit + 1, origin, depth, path => do
    if (← get).isOver then pure ()
    else
      let followsLink := course.followsAll || (depth = 0 && course.followsNamed)
      match ← stand followsLink path with
      | .error error => regret call (fault ('\'' :: path ++ ['\'']) error)
      | .ok tree =>
        let visit : Visit := ⟨origin, path, depth, tree⟩
        let ask : Walk Unit := do
          if course.least ≤ depth && !(← get).isOver then
            let _ ← holds start call visit test
        modify fun progress => { progress with isPruned := false }
        if !course.isDeepFirst then ask
        let isPruned := (← get).isPruned && !course.isDeepFirst
        let isDeep := course.most.any fun most => most ≤ depth
        match tree with
        | .directory mode _ =>
          if !isPruned && !isDeep && !(← get).isOver then
            if !mode.mayRead then
              regret call (fault ('\'' :: path ++ ['\'']) .permissionDenied)
            else
              match ← find path with
              | .ok (.directory _ entries) =>
                for (name, _) in entries do
                  visitFrom course test limit origin (depth + 1)
                    (joinPath path (ByteText.ofString name))
              | _ => pure ()
        | _ => pure ()
        if course.isDeepFirst then ask

/-- How deep a walk may go. -/
def depthLimit : Nat := 200

/-- Run the commands that have collected files. -/
def runCollected : Walk Unit := do
  for (_, order, paths) in (← get).collected do
    if order.isInPlace then
      let directories := (paths.map directoryName).eraseDups
      for directory in directories do
        let own := paths.filter fun path => directoryName path = directory
        if !(← runWords start call order (own.headD [])
            (order.words ++ own.map (placedPath order))) then
          modify fun progress => { progress with isWell := false }
    else if !(← runWords start call order [] (order.words ++ paths)) then
      modify fun progress => { progress with isWell := false }

end

/-! ### Words -/

/-- The options that stand before the paths. -/
def readCourse : Course → List ByteText → Course × List ByteText
  | course, word :: rest =>
    match word with
    | ['-', 'L'] => readCourse { course with followsNamed := true, followsAll := true } rest
    | ['-', 'H'] => readCourse { course with followsNamed := true, followsAll := false } rest
    | ['-', 'P'] => readCourse { course with followsNamed := false, followsAll := false } rest
    | ['-', '-'] => (course, rest)
    | '-' :: 'O' :: _ :: _ => readCourse course rest
    | _ => (course, word :: rest)
  | course, [] => (course, [])

/-- Whether a word begins what is asked, and is no path. -/
def beginsTest (word : ByteText) : Bool :=
  (word.head? = some '-' && 1 < word.length) ||
    [['('], [')'], ['!']].contains word

/-- The paths of files that a test refers to and that have to be there. -/
def references : Test → List ByteText
  | .sameAs path => [path]
  | .negation test => references test
  | .both first second | .either first second | .sequence first second =>
    references first ++ references second
  | _ => []

/-- The files that a test writes to, which are emptied at the beginning. -/
def outputs : Test → List ByteText
  | .deed (.printTo path _) | .deed (.formatTo path _) => [path]
  | .negation test => outputs test
  | .both first second | .either first second | .sequence first second =>
    outputs first ++ outputs second
  | _ => []

end Selecting

open Selecting in
/-- Walk through file trees, and ask something of each file. -/
def select (start : Start) : Utility := fun call => do
  let (course, words) := readCourse ⟨false, false, false, 0, none⟩ call.arguments
  let paths := words.takeWhile fun word => !beginsTest word
  let asked : Selection.State := ⟨words.drop paths.length, course, 0⟩
  match readTest.run asked with
  | .error fault => fail call 1 fault.message
  | .ok (test, state) =>
    for path in references test do
      match ← find path with
      | .ok _ => pure ()
      | .error error => fail call 1 (fault ('\'' :: path ++ ['\'']) error)
    for path in outputs test do
      match ← Job.openPath path (.replacing false) with
      | .ok _ => pure ()
      | .error error => fail call 1 (fault ('\'' :: path ++ ['\'']) error)
    let origins := if paths.isEmpty then [['.']] else paths
    let walk : Walk Unit := do
      for origin in origins do
        visitFrom start call state.course test depthLimit origin 0 origin
      runCollected start call
    let ((), progress) ← walk.run ⟨false, false, [], true⟩
    pure (statusOf progress.isWell)

end CodeNavigator.Utility
