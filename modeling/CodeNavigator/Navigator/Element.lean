/-
This file defines the elements of the navigator: projects, the folder of a project's build targets,
the build targets in it, and the files and directories of a project. Two elements are the same when
they are of one kind and agree in their parts, where paths count by their components and not by
their spelling.
-/

import CodeNavigator.Path

namespace CodeNavigator

/-- A project: its name and the directory that holds it. -/
structure Project where
  name : String
  root : Path
deriving DecidableEq

/-- An element of the navigator. -/
inductive Element
  | project (self : Project)
  | buildTargets (owner : Project)
  | buildTarget (owner : Project) (name : String) (path : Path)
  | resource (owner : Project) (path : Path) (isDirectory : Bool)
deriving DecidableEq

/-- The kinds of elements. -/
inductive ElementKind
  | project
  | buildTargets
  | buildTarget
  | directory
  | file
deriving DecidableEq

def ElementKind.name : ElementKind → String
  | .project => "project"
  | .buildTargets => "build_targets"
  | .buildTarget => "build_target"
  | .directory => "directory"
  | .file => "file"

/-- Whether two projects have one name and one root. -/
def Project.Same (left right : Project) : Prop :=
  left.name = right.name ∧ left.root.Same right.root

instance (left right : Project) : Decidable (left.Same right) :=
  inferInstanceAs (Decidable (_ ∧ _))

namespace Element

/-! ### The parts of an element -/

def kind : Element → ElementKind
  | .project _ => .project
  | .buildTargets _ => .buildTargets
  | .buildTarget _ _ _ => .buildTarget
  | .resource _ _ true => .directory
  | .resource _ _ false => .file

/-- What stands over the build targets of a project. -/
def buildTargetsLabel : String := "Build Targets"

/-- How an element is called. A resource without a file name is called by its whole path. -/
def label : Element → String
  | .project owner => owner.name
  | .buildTargets _ => buildTargetsLabel
  | .buildTarget _ name _ => name
  | .resource _ path _ => path.fileName.getD path.text

def path? : Element → Option Path
  | .project owner => some owner.root
  | .buildTargets _ => none
  | .buildTarget _ _ path => some path
  | .resource _ path _ => some path

/-- The project that an element belongs to. -/
def owner : Element → Project
  | .project owner => owner
  | .buildTargets owner => owner
  | .buildTarget owner _ _ => owner
  | .resource owner _ _ => owner

/-! ### Sameness -/

/-- Whether two elements agree up to the spelling of their paths. -/
def Same : Element → Element → Prop
  | .project left, .project right => left.Same right
  | .buildTargets left, .buildTargets right => left.Same right
  | .buildTarget left leftName leftPath, .buildTarget right rightName rightPath =>
    left.Same right ∧ leftName = rightName ∧ leftPath.Same rightPath
  | .resource left leftPath leftKind, .resource right rightPath rightKind =>
    left.Same right ∧ leftPath.Same rightPath ∧ leftKind = rightKind
  | _, _ => False

instance (left right : Element) : Decidable (left.Same right) := by
  cases left <;> cases right <;> unfold Same <;> infer_instance

/-- The place of the first element of a list that is the same as the given one. -/
def firstSame (elements : List Element) (element : Element) : Nat :=
  elements.findIdx fun other => decide (other.Same element)

/-- How many different elements a list holds. -/
def countDistinct (elements : List Element) : Nat :=
  (elements.map (firstSame elements)).eraseDups.length

end Element

end CodeNavigator
