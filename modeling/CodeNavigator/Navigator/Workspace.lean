/-
This file makes a model of a workspace on disk. Every directory in the root that is not hidden is a
project, and every directory in the `cmd` folder of a project is a build target. Listings leave out
hidden entries, show directories first and order each group by name. A symbolic link is never shown
as a directory, so listings never lead in a circle.
-/

import CodeNavigator.FileTree.Access
import CodeNavigator.Navigator.Model

namespace CodeNavigator.Workspace

/-! ### Listings -/

/-- Whether a name is not shown. -/
def isHidden (name : String) : Bool :=
  name.toList.head? = some '.'

/-- A named entry, and whether it is a directory itself. -/
structure Listed where
  name : String
  isDirectory : Bool
deriving DecidableEq

/-- Whether one entry stands before another or is the same: directories first, then by name. -/
def Listed.precedes (left right : Listed) : Bool :=
  if left.isDirectory = right.isDirectory then decide (left.name ≤ right.name)
  else left.isDirectory

/-- The entries of a directory that are shown, in order. -/
def arrange (entries : List (String × FileTree)) : List Listed :=
  ((entries.filter fun entry => !isHidden entry.1).map fun entry =>
    (⟨entry.1, entry.2.isDirectory⟩ : Listed)).mergeSort Listed.precedes

/-- The listing of a directory, each entry below the path that was asked for. -/
def list (tree : FileTree) (start : FileTree.Place) (directory : Path) :
    Except Failure (List (String × Entry)) :=
  match tree.readDirectory start directory with
  | .ok entries =>
    .ok ((arrange entries).map fun listed =>
      (listed.name, ⟨directory.join ⟨listed.name⟩, listed.isDirectory⟩))
  | .error error => .error (Failure.during (.readingDirectory directory) (.of (.system error)))

/-- The directories of a listing. -/
def directories (listing : List (String × Entry)) : List (String × Path) :=
  listing.filterMap fun (name, entry) =>
    if entry.isDirectory then some (name, entry.path) else none

/-! ### The model -/

/-- Where the build targets of a project lie. -/
def targetsDirectory (project : Project) : Path :=
  project.root.join ⟨"cmd"⟩

/-- The build targets of a project. A project without the folder has none. -/
def buildTargets (tree : FileTree) (start : FileTree.Place) (project : Project) :
    Except Failure (List (String × Path)) :=
  if tree.leadsToDirectory start (targetsDirectory project) then
    (list tree start (targetsDirectory project)).map directories
  else .ok []

/-- The model of the workspace with the given root, as it is seen from a place. -/
def model (tree : FileTree) (start : FileTree.Place) (root : Path) : Model where
  projects :=
    (list tree start root).map fun listing =>
      (directories listing).map fun (name, path) => ⟨name, path⟩
  isAccessible project := (tree.readDirectory start project.root).toOption.isSome
  members _ directory := (list tree start directory).map (·.map Prod.snd)
  buildTargets := buildTargets tree start
  firstChildren _ := []

end CodeNavigator.Workspace
