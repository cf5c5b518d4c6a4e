/-
This file defines models that are given by tables. A table lists the projects, the contents of
directories, the build targets and what stands before them, and it says which projects cannot be
opened and which listings fail.
-/

import CodeNavigator.Navigator.Model

namespace CodeNavigator

/-- The tables of a model. Directories are found by the text of their path, everything else by the
name of its project. -/
structure ModelTable where
  projects : List Project
  projectsError : Option String
  inaccessible : List String
  directories : List (Path × List Entry)
  targets : List (String × String × Path)
  failingTargets : List String
  first : List (String × Element)

namespace ModelTable

/-- The model that the tables describe. -/
def model (table : ModelTable) : Model where
  projects :=
    match table.projectsError with
    | some text => .error (.of (.other text))
    | none => .ok table.projects
  isAccessible project := project.name ∉ table.inaccessible
  members _ directory :=
    match table.directories.find? fun line => line.1 = directory with
    | some (_, entries) => .ok entries
    | none => .error (.of (.other ("Directory not found: " ++ directory.text)))
  buildTargets project :=
    if project.name ∈ table.failingTargets then
      .error (.of (.other ("Build targets not found: " ++ project.name)))
    else
      .ok (table.targets.filterMap fun (owner, name, path) =>
        if owner = project.name then some (name, path) else none)
  firstChildren project :=
    table.first.filterMap fun (owner, element) =>
      if owner = project.name then some element else none

end ModelTable

end CodeNavigator
