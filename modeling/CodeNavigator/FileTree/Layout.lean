/-
This file lays files out in a tree. Items are put down one after the other, each with the
directories on the way to it, and each on top of what was put down before: a file is written where
its path leads, also through links. An item that cannot be put down leaves the tree as it was.
-/

import CodeNavigator.FileTree.Writing

namespace CodeNavigator.FileTree

/-- What can be put down. -/
inductive Item
  | directory
  | file (content : List UInt8) (isProgram : Bool)
  | link (target : Path)

/-- Make the directories on the way to a path. -/
def makeWay (tree : FileTree) (start : Place) (path : Path) : Except SystemError FileTree :=
  match path.parent with
  | some above => if above.text = "" then .ok tree else tree.makeDirectories start above .executable
  | none => .ok tree

/-- Put one item down. -/
def putDown (tree : FileTree) (start : Place) (path : Path) (item : Item) :
    Except SystemError FileTree := do
  match item with
  | .directory => tree.makeDirectories start path .executable
  | .link target => (← tree.makeWay start path).makeLink start path target
  | .file content isProgram =>
    let written ← (← tree.makeWay start path).writeFile start path .plain content
    if isProgram then
      let place ← written.locate start path
      .ok (written.setMode place .executable)
    else .ok written

/-- Put items down in order. -/
def layOut (tree : FileTree) (start : Place) (items : List (Path × Item)) : FileTree :=
  items.foldl (fun tree (path, item) =>
    match tree.putDown start path item with
    | .ok changed => changed
    | .error _ => tree) tree

end CodeNavigator.FileTree
