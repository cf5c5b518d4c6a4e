/-
This file defines file trees as values. A tree is a directory with named entries, a file, a symbolic
link or a device. Directories and files say who may read, write and execute them. Names are unique
in each directory when a tree is built with the operations here.

Names are Unicode texts, as paths are. A disk may also hold names that are not, of which a program
shows only as much as can be decoded. No such disk is among these trees, and what is shown of a name
is the name.
-/

import CodeNavigator.Path

namespace CodeNavigator

/-- What may be done with a file or a directory, as twelve bits. The highest three of the lower nine
are those that count for the owner, which every process here is. -/
structure Mode where
  bits : Nat
deriving DecidableEq

namespace Mode

/-- The mode of files that are no programs. -/
def plain : Mode := ⟨0o644⟩

/-- The mode of programs and of directories. -/
def executable : Mode := ⟨0o755⟩

/-- The mode of what may be used but not changed. -/
def fixed : Mode := ⟨0o555⟩

def mayRead (mode : Mode) : Bool :=
  mode.bits.testBit 8

def mayWrite (mode : Mode) : Bool :=
  mode.bits.testBit 7

/-- Whether a file may be started, or a directory walked through. -/
def mayExecute (mode : Mode) : Bool :=
  mode.bits.testBit 6

/-- Whether a file is a program for somebody. -/
def isProgram (mode : Mode) : Bool :=
  mode.bits &&& 0o111 ≠ 0

end Mode

/-- What stands in the tree for something that is no file: the place where nothing is kept, an
endless supply of zeros, the place that is always full, and an open descriptor. -/
inductive Device
  | null
  | zero
  | full
  | descriptor (number : Nat)
deriving DecidableEq

/-- What stands at a place of the file system. -/
inductive FileTree
  | directory (mode : Mode) (entries : List (String × FileTree))
  | file (mode : Mode) (content : List UInt8)
  | link (target : Path)
  | device (device : Device)

namespace FileTree

/-- A directory without entries. -/
def empty : FileTree :=
  .directory .executable []

instance : Inhabited FileTree :=
  ⟨empty⟩

def isDirectory : FileTree → Bool
  | .directory _ _ => true
  | _ => false

/-- The entry of that name. -/
def child? (name : String) : FileTree → Option FileTree
  | .directory _ entries => (entries.find? fun entry => entry.1 = name).map Prod.snd
  | _ => none

/-- What stands below a tree at the end of some names. -/
def at? : List String → FileTree → Option FileTree
  | [], tree => some tree
  | name :: names, tree => (tree.child? name).bind (at? names)

mutual

/-- The number of levels of a tree. -/
def height : FileTree → Nat
  | .directory _ entries => heightOfAll entries + 1
  | _ => 1

def heightOfAll : List (String × FileTree) → Nat
  | [] => 0
  | (_, tree) :: rest => max tree.height (heightOfAll rest)

end

/-! ### Changing a tree -/

/-- A list of entries in which a name stands for a tree. A new name comes last. -/
def put (name : String) (tree : FileTree) : List (String × FileTree) → List (String × FileTree)
  | [] => [(name, tree)]
  | entry :: rest => if entry.1 = name then (name, tree) :: rest else entry :: put name tree rest

/-- Put something at the end of some names, in place of what was there, with the directories on the
way to it. -/
def add (node : FileTree) : List String → FileTree → FileTree
  | [], _ => node
  | name :: names, .directory mode entries =>
    let below := ((FileTree.directory mode entries).child? name).getD empty
    .directory mode (put name (add node names below) entries)
  | _ :: _, tree => tree

/-- Take away what stands at the end of some names. -/
def remove : List String → FileTree → FileTree
  | [name], .directory mode entries =>
    .directory mode (entries.filter fun entry => entry.1 ≠ name)
  | name :: names, .directory mode entries =>
    match (FileTree.directory mode entries).child? name with
    | some tree => .directory mode (put name (remove names tree) entries)
    | none => .directory mode entries
  | _, tree => tree

end FileTree

end CodeNavigator
