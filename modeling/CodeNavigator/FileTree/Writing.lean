/-
This file changes file trees the way an operating system does. Something new takes its last name in
the directory that the rest of its path leads to, and that directory has to admit changes. A file is
written where its path leads, even if only a link stands there so far.
-/

import CodeNavigator.FileTree.Access

namespace CodeNavigator.FileTree

/-! ### Places for something new -/

/-- Put something at a place. -/
def setAt (tree : FileTree) (place : Place) (node : FileTree) : FileTree :=
  add node place.reverse tree

/-- Whether names may be added to the directory around a place, or taken away from it. -/
def checkChange (tree : FileTree) (place : Place) : Except SystemError Unit :=
  match tree.look place.tail with
  | some (.directory mode _) =>
    if mode.mayWrite && mode.mayExecute then .ok () else .error .permissionDenied
  | _ => .error .noSuchFile

/-- Put something where nothing stands yet. -/
def putNew (tree : FileTree) (start : Place) (path : Path) (node : FileTree) :
    Except SystemError FileTree :=
  match tree.trace false start path with
  | .error error => .error error
  | .ok (.existing _) => .error .fileExists
  | .ok (.missing place) => do
    tree.checkChange place
    .ok (tree.setAt place node)

/-- Make a directory where nothing stands. -/
def makeDirectory (tree : FileTree) (start : Place) (path : Path) (mode : Mode) :
    Except SystemError FileTree :=
  putNew tree start path (.directory mode [])

/-- Make a link where nothing stands. -/
def makeLink (tree : FileTree) (start : Place) (path target : Path) :
    Except SystemError FileTree :=
  putNew tree start path (.link target)

/-- The paths that lead to the directories along a path, the shortest first. -/
def leadingPaths (path : Path) : List Path :=
  let parts := Text.split '/' path.text.toList
  ((List.range (parts.length + 1)).map fun count =>
    (⟨String.ofList (Text.join '/' (parts.take count))⟩ : Path)).filter fun lead => lead.text ≠ ""

/-- Make a directory and all that are missing on the way to it. -/
def makeDirectories (tree : FileTree) (start : Place) (path : Path) (mode : Mode) :
    Except SystemError FileTree :=
  (leadingPaths path).foldlM (fun tree lead =>
    if tree.leadsToDirectory start lead then .ok tree else tree.makeDirectory start lead mode) tree

/-! ### Files -/

/-- Make a file ready for writing, and tell where it stands. A missing file is made with the given
mode. -/
def openFile (tree : FileTree) (start : Place) (path : Path) (mode : Mode) :
    Except SystemError (FileTree × Place) := do
  match ← tree.trace true start path with
  | .missing place =>
    tree.checkChange place
    if path.text.toList.getLast? = some '/' then .error .isDirectory
    else .ok (tree.setAt place (.file mode []), place)
  | .existing place =>
    match tree.look place with
    | some (.file mode _) =>
      if mode.mayWrite then .ok (tree, place) else .error .permissionDenied
    | some (.device _) => .ok (tree, place)
    | some (.directory _ _) => .error .isDirectory
    | _ => .error .noSuchFile

/-- Change the content of the file at a place. -/
def changeContent (tree : FileTree) (place : Place) (change : List UInt8 → List UInt8) :
    FileTree :=
  match tree.look place with
  | some (.file mode content) => tree.setAt place (.file mode (change content))
  | _ => tree

/-- Write a file, over what it holds. A missing file is made with the given mode. -/
def writeFile (tree : FileTree) (start : Place) (path : Path) (mode : Mode)
    (content : List UInt8) : Except SystemError FileTree := do
  let (opened, place) ← tree.openFile start path mode
  .ok (opened.changeContent place fun _ => content)

/-- Give what stands at a place another mode. -/
def setMode (tree : FileTree) (place : Place) (mode : Mode) : FileTree :=
  match tree.look place with
  | some (.file _ content) => tree.setAt place (.file mode content)
  | some (.directory _ entries) => tree.setAt place (.directory mode entries)
  | _ => tree

/-! ### Removal -/

/-- Take away what stands at a place. -/
def removeAt (tree : FileTree) (place : Place) : Except SystemError FileTree := do
  tree.checkChange place
  .ok (remove place.reverse tree)

/-- Take away a file, or a link itself. -/
def removeFile (tree : FileTree) (start : Place) (path : Path) : Except SystemError FileTree := do
  let place ← tree.locateLink start path
  match tree.look place with
  | some (.directory _ _) => .error .isDirectory
  | _ => tree.removeAt place

/-- Take away a directory without entries. -/
def removeDirectory (tree : FileTree) (start : Place) (path : Path) :
    Except SystemError FileTree := do
  let place ← tree.locateLink start path
  match tree.look place with
  | some (.directory _ []) => tree.removeAt place
  | some (.directory _ _) => .error .notEmpty
  | _ => .error .notDirectory

/-- Take away whatever a path stands for, with all that is below it. -/
def removeWhole (tree : FileTree) (start : Place) (path : Path) : Except SystemError FileTree := do
  tree.removeAt (← tree.locateLink start path)

end CodeNavigator.FileTree
