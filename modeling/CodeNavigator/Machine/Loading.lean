/-
This file finds the program that a path or a name stands for. A file can be started if it may be
executed and is a compiled program or names its interpreter in its first line; the interpreter is then
started with the path of the file. A name without a slash is looked for in the directories of a search
path. A compiled program is a file that begins with the mark of compiled programs, behind which its
name stands.
-/

import CodeNavigator.Machine.Basic

namespace CodeNavigator

/-- A compiled program with the name by which it is called and the arguments that it is given before
all others. -/
structure Program where
  name : String
  called : ByteText
  leading : List ByteText
deriving DecidableEq

namespace Program

/-- What compiled programs begin with. -/
def mark : ByteText :=
  ['\x7f', 'E', 'L', 'F']

/-- The content of the compiled program of that name. -/
def content (name : String) : List UInt8 :=
  ByteText.toBytes (mark ++ ByteText.ofString name)

/-! ### Interpreters -/

/-- How much of a file is looked at for its interpreter. -/
def headLength : Nat := 255

/-- The interpreter that the first line of a file names, and its argument. A line that goes on for
too long is cut off, unless that cuts off the name of the interpreter. -/
def interpreter? (content : ByteText) : Option (ByteText × Option ByteText) :=
  match content with
  | '#' :: '!' :: _ =>
    let head := content.take (headLength + 1)
    let isWhole := head.contains '\n' || content.length ≤ headLength
    let line := ((if isWhole then head.takeWhile (· ≠ '\n') else content.take headLength).drop
      2).dropWhile ByteText.isBlank
    let path := line.takeWhile fun character => !ByteText.isBlank character && character ≠ '\x00'
    let rest := line.drop path.length
    if path.isEmpty || (!isWhole && rest.isEmpty) then none
    else
      let argument := ByteText.dropEnd ByteText.isBlank (rest.dropWhile ByteText.isBlank)
      some (path, if argument.isEmpty || rest.head? = some '\x00' then none else some argument)
  | _ => none

/-- How many programs may stand behind each other, each the interpreter of the one before. -/
def interpreterLimit : Nat := 6

/-- The program behind a path. -/
def load (tree : FileTree) (place : FileTree.Place) :
    Nat → ByteText → Except SystemError Program
  | 0, _ => .error .tooManyLinks
  | limit + 1, path =>
    match tree.resolve place ⟨ByteText.asString path⟩ with
    | .error error => .error error
    | .ok (.file mode bytes) =>
      let content := ByteText.ofBytes bytes
      if !mode.isProgram then .error .permissionDenied
      else
        match mark.isPrefixOf? content, interpreter? content with
        | some name, _ => .ok ⟨ByteText.asString name, path, []⟩
        | none, some (interpreter, argument) => do
          let program ← load tree place limit interpreter
          .ok { program with leading := program.leading ++ argument.toList ++ [path] }
        | none, none => .error .cannotExecute
    | .ok _ => .error .permissionDenied

/-- The program behind a path, called by it. -/
def ofPath (tree : FileTree) (place : FileTree.Place) (path : ByteText) :
    Except SystemError Program :=
  load tree place interpreterLimit path

/-! ### Search -/

/-- The directories in which names are looked for where nothing else is asked for. -/
def standardDirectories : List ByteText :=
  ["/bin".toList, "/usr/bin".toList]

/-- The path of a name in a directory of the search path. -/
def candidate (directory name : ByteText) : ByteText :=
  if directory.isEmpty then name else directory ++ '/' :: name

/-- Look for a name in some directories, and tell the path that it was found at. What is missing is
passed over, and so is what may not be started; what is said at the end is why the last candidate
was passed over, or that one might not be started. -/
def search (tree : FileTree) (place : FileTree.Place) (name : ByteText) (wasRefused : Bool)
    (last : SystemError) : List ByteText → ByteText × Except SystemError Program
  | [] => (name, .error (if wasRefused then .permissionDenied else last))
  | directory :: rest =>
    let path := candidate directory name
    match ofPath tree place path with
    | .ok program =>
      (path, .ok (if program.leading.isEmpty then { program with called := name } else program))
    | .error .permissionDenied => search tree place name true .permissionDenied rest
    | .error .noSuchFile => search tree place name wasRefused .noSuchFile rest
    | .error .notDirectory => search tree place name wasRefused .notDirectory rest
    | .error error => (path, .error error)

/-- The program that a name or a path stands for, and the path that it was found at. -/
def find (tree : FileTree) (place : FileTree.Place) (directories : List ByteText)
    (name : ByteText) : ByteText × Except SystemError Program :=
  if name.isEmpty then (name, .error .noSuchFile)
  else if name.contains '/' then (name, ofPath tree place name)
  else if FileTree.longestName < name.length then (name, .error .nameTooLong)
  else search tree place name false .noSuchFile directories

/-- The directories that an environment tells to look for names in. -/
def directoriesOf (environment : List (ByteText × ByteText)) : List ByteText :=
  match environment.find? fun entry => entry.1 = "PATH".toList with
  | some (_, value) => Text.split ':' value
  | none => standardDirectories

end Program

/-- How a program is started with arguments. -/
abbrev Start := Program → List ByteText → Job Nat

end CodeNavigator
