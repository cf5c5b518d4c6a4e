/-
This file says what the navigator has to know about projects, and how the elements of the navigator
hang together. A model answers four questions, any of which may fail or be refused. A listing that
fails leaves its element without children. Parents are found from the paths alone and ask the model
nothing.
-/

import CodeNavigator.Failure
import CodeNavigator.Navigator.Element

namespace CodeNavigator

/-- An entry of a directory. -/
structure Entry where
  path : Path
  isDirectory : Bool
deriving DecidableEq

/-- What is known about projects. Nothing keeps directories from containing each other, so the levels
below a project may be without end. -/
structure Model where
  projects : Except Failure (List Project)
  isAccessible : Project → Bool
  members : Project → Path → Except Failure (List Entry)
  buildTargets : Project → Except Failure (List (String × Path))
  firstChildren : Project → List Element

namespace Model

/-! ### Downwards -/

/-- The projects as elements. -/
def roots (model : Model) : Except Failure (List Element) :=
  model.projects.map (·.map Element.project)

/-- Whether an element is shown as one that can be opened. -/
def hasChildren (model : Model) : Element → Bool
  | .project project => model.isAccessible project
  | .buildTargets _ => true
  | .buildTarget _ _ _ => false
  | .resource _ _ isDirectory => isDirectory

/-- The entries of a directory as elements. -/
def resources (model : Model) (project : Project) (directory : Path) : List Element :=
  match model.members project directory with
  | .ok entries => entries.map fun entry => .resource project entry.path entry.isDirectory
  | .error _ => []

/-- The elements directly below an element. -/
def children (model : Model) : Element → List Element
  | .project project =>
    if model.isAccessible project then
      model.firstChildren project ++ .buildTargets project :: model.resources project project.root
    else []
  | .buildTargets project =>
    match model.buildTargets project with
    | .ok targets => targets.map fun (name, path) => .buildTarget project name path
    | .error _ => []
  | .buildTarget _ _ _ => []
  | .resource project path isDirectory =>
    if isDirectory then model.resources project path else []

end Model

namespace Element

/-! ### Upwards -/

/-- The element directly above an element. A resource has one only if it lies below the root of its
project. -/
def parent? : Element → Option Element
  | .project _ => none
  | .buildTargets owner => some (.project owner)
  | .buildTarget owner _ _ => some (.buildTargets owner)
  | .resource owner path _ =>
    if path.startsWith owner.root ∧ ¬ path.Same owner.root then
      path.parent.map fun above =>
        if above.Same owner.root then .project owner else .resource owner above true
    else none

/-- The elements above an element, the nearest first, at most so many. -/
def ancestors : Nat → Element → List Element
  | 0, _ => []
  | limit + 1, element =>
    match element.parent? with
    | some parent => parent :: ancestors limit parent
    | none => []

end Element

end CodeNavigator
