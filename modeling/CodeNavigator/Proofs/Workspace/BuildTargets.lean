/-
This file proves that the build targets of a project agree with the `cmd` folder that is shown beside
them. The two are found in different ways. The build targets are the directories that are listed at
the path of the folder, if this path leads to a directory at all. The folder is an entry of the
project, and its children are listed at the path of that entry. Both ask for the same path, so the
question is only whether there is an entry that can be opened when the path leads to a directory.
There is one unless the entry is a link, which a path follows but a listing does not.
-/

import CodeNavigator.Proofs.Workspace.Completeness

namespace CodeNavigator

/-- What is shown of an element besides its kind: how it is called and the text of its path. -/
def Element.caption (element : Element) : String × Option String :=
  (element.label, element.path?.map Path.text)

/-- The children of an element that are directories. -/
def Model.directoriesIn (model : Model) (element : Element) : List Element :=
  (model.children element).filter fun child => child.kind = .directory

/-- The children of a project that are called like the folder of its build targets. -/
def Model.targetsFolder (model : Model) (project : Project) : List Element :=
  (model.children (.project project)).filter fun child => child.label = "cmd"

namespace Workspace

variable {tree found : FileTree} {start : FileTree.Place} {root path : Path} {project : Project}
  {entries inside : List (String × FileTree)} {mode : Mode}

theorem isName_cmd : FileTree.IsName "cmd" := by decide

/-! ### Two ways to list the folder -/

theorem leadsToDirectory_of_readDirectory (read : tree.readDirectory start path = .ok entries) :
    tree.leadsToDirectory start path = true := by
  obtain ⟨place, mode, located, is, _⟩ := FileTree.readDirectory_eq_ok_iff.mp read
  rw [FileTree.leadsToDirectory, FileTree.resolve, located, Except.bind, FileTree.found, is]
  rfl

/-- The build targets are the directories at the path of the folder. -/
theorem children_buildTargets
    (read : tree.readDirectory start (targetsDirectory project) = .ok inside) :
    (model tree start root).children (.buildTargets project) =
      ((arrange inside).filter Listed.isDirectory).map fun listed =>
        .buildTarget project listed.name ((targetsDirectory project).join ⟨listed.name⟩) := by
  simp only [Model.children, model, buildTargets, leadsToDirectory_of_readDirectory read, if_true,
    list_of_readDirectory read, Except.map, directories_map, List.map_map]
  rfl

theorem children_buildTargets_of_not_isReadable
    (closed : ¬ IsReadable tree start (targetsDirectory project)) :
    (model tree start root).children (.buildTargets project) = [] := by
  cases read : tree.readDirectory start (targetsDirectory project) with
  | ok entries => exact absurd ⟨entries, read⟩ closed
  | error error =>
    simp only [Model.children, model, buildTargets, list, read, Except.map]
    cases tree.leadsToDirectory start (targetsDirectory project) <;> rfl

/-- The directories in a directory, as they are shown. -/
theorem directoriesIn_resource (read : tree.readDirectory start path = .ok inside) :
    (model tree start root).directoriesIn (.resource project path true) =
      ((arrange inside).filter Listed.isDirectory).map fun listed =>
        .resource project (path.join ⟨listed.name⟩) listed.isDirectory := by
  rw [Model.directoriesIn, Model.children, if_pos rfl, resources_of_readDirectory read,
    List.filter_map]
  refine congrArg _ (List.filter_congr fun listed _ => ?_)
  rw [Function.comp_apply]
  cases listed.isDirectory <;> rfl

/-- Build targets and directories at one path have the same captions. -/
theorem captions_eq (isWellFormed : tree.IsWellFormed)
    (read : tree.readDirectory start (targetsDirectory project) = .ok inside) :
    ((model tree start root).directoriesIn
        (.resource project (targetsDirectory project) true)).map Element.caption =
      ((model tree start root).children (.buildTargets project)).map Element.caption := by
  rw [directoriesIn_resource read, children_buildTargets read, List.map_map, List.map_map]
  refine List.map_congr_left fun listed member => ?_
  have isName := isName_of_mem_arrange (isWellFormed.readDirectory read .plain)
    (List.mem_of_mem_filter member)
  simp only [Function.comp_apply, Element.caption, Element.label, Element.path?,
    Path.fileName_join _ isName.components_eq]
  rfl

/-! ### The folder in its project -/

theorem targetsFolder_eq_filter (readable : IsReadable tree start project.root) :
    (model tree start root).targetsFolder project =
      ((model tree start root).resources project project.root).filter fun child =>
        child.label = "cmd" := by
  have differs : ¬ decide ((Element.buildTargets project).label = "cmd") = true := by
    have other : Element.buildTargetsLabel ≠ "cmd" := by decide
    exact mt of_decide_eq_true other
  rw [Model.targetsFolder, children_project readable, List.filter_cons]
  exact if_neg differs

theorem targetsFolder_of_mem (isWellFormed : tree.IsWellFormed)
    (read : tree.readDirectory start project.root = .ok entries)
    (member : ("cmd", found) ∈ entries) :
    (model tree start root).targetsFolder project =
      [.resource project (targetsDirectory project) found.isDirectory] := by
  have distinct := (isWellFormed.readDirectory read .plain).1
  rw [targetsFolder_eq_filter ⟨_, read⟩, filter_resources isWellFormed read,
    filter_arrange_of_mem distinct member (by decide)]
  rfl

theorem targetsFolder_of_missing (isWellFormed : tree.IsWellFormed)
    (read : tree.readDirectory start project.root = .ok entries)
    (missing : ∀ found, ("cmd", found) ∉ entries) :
    (model tree start root).targetsFolder project = [] := by
  rw [targetsFolder_eq_filter ⟨_, read⟩, filter_resources isWellFormed read,
    filter_arrange_of_missing fun found member => absurd member (missing found)]
  rfl

/-- What cannot be read has no directories. -/
theorem directoriesIn_of_not_isReadable (closed : ¬ IsReadable tree start path)
    (isDirectory : Bool) :
    (model tree start root).directoriesIn (.resource project path isDirectory) = [] := by
  cases isDirectory with
  | false => rfl
  | true =>
    rw [Model.directoriesIn, Model.children, if_pos rfl, resources_of_not_isReadable closed]
    rfl

/-- The path of the folder leads to a directory that can be read only where the folder is shown. -/
theorem exists_mem_of_isReadable
    (read : tree.readDirectory start project.root = .ok entries)
    (noLink : ∀ target, ("cmd", .link target) ∉ entries)
    (readable : IsReadable tree start (targetsDirectory project)) :
    ∃ mode inside, ("cmd", .directory mode inside) ∈ entries ∧
      tree.readDirectory start (targetsDirectory project) = .ok inside := by
  obtain ⟨inside, readBelow⟩ := readable
  obtain ⟨place, mode, located, here⟩ := FileTree.exists_look_of_readDirectory read
  obtain ⟨below, member⟩ :=
    FileTree.exists_mem_of_readDirectory_join isName_cmd located here noLink readBelow
  exact ⟨below, inside, member, readBelow⟩

/-- Where the folder cannot be read, it shows no directories, whatever it is. -/
theorem directoriesIn_targetsFolder_of_not_isReadable (isWellFormed : tree.IsWellFormed)
    (read : tree.readDirectory start project.root = .ok entries)
    (closed : ¬ IsReadable tree start (targetsDirectory project)) :
    ((model tree start root).targetsFolder project).flatMap
      (model tree start root).directoriesIn = [] := by
  by_cases present : ∃ found, ("cmd", found) ∈ entries
  · obtain ⟨found, member⟩ := present
    rw [targetsFolder_of_mem isWellFormed read member, List.flatMap_singleton]
    exact directoriesIn_of_not_isReadable closed _
  · rw [targetsFolder_of_missing isWellFormed read (not_exists.mp present)]
    rfl

/-- The build targets are called like the directories in the folder, in the same order. -/
theorem captions_targetsFolder (isWellFormed : tree.IsWellFormed)
    (read : tree.readDirectory start project.root = .ok entries)
    (noLink : ∀ target, ("cmd", .link target) ∉ entries) :
    ((model tree start root).children (.buildTargets project)).map Element.caption =
      (((model tree start root).targetsFolder project).flatMap
        (model tree start root).directoriesIn).map Element.caption := by
  by_cases readable : IsReadable tree start (targetsDirectory project)
  · obtain ⟨mode, inside, member, readBelow⟩ := exists_mem_of_isReadable read noLink readable
    rw [targetsFolder_of_mem isWellFormed read member, List.flatMap_singleton]
    exact (captions_eq isWellFormed readBelow).symm
  · rw [children_buildTargets_of_not_isReadable readable,
      directoriesIn_targetsFolder_of_not_isReadable isWellFormed read readable]

/-- What is read of the folder is what stands in the directory. -/
theorem captions_buildTargets_of_mem (isWellFormed : tree.IsWellFormed)
    (read : tree.readDirectory start project.root = .ok entries)
    (member : ("cmd", .directory mode inside) ∈ entries)
    (readable : IsReadable tree start (targetsDirectory project)) :
    ((model tree start root).children (.buildTargets project)).map Element.caption =
      ((arrange inside).filter Listed.isDirectory).map fun listed =>
        (listed.name, some ((targetsDirectory project).join ⟨listed.name⟩).text) := by
  obtain ⟨other, readBelow⟩ := readable
  obtain ⟨place, outer, located, here⟩ := FileTree.exists_look_of_readDirectory read
  obtain ⟨rfl, _⟩ := (FileTree.readDirectory_join_iff isWellFormed located here member).mp readBelow
  rw [children_buildTargets readBelow, List.map_map]
  rfl

/-! ### Build targets in a tree -/

theorem kind_eq_buildTarget {kind : ElementKind} (same : kind.name = ElementKind.buildTarget.name) :
    kind = .buildTarget := by
  cases kind with
  | buildTarget => rfl
  | _ => exact absurd same (by decide)

/-- A node of a build target has nothing below it. -/
theorem closed_of_buildTarget {model : Model} {node : TreeNode} {element : Element}
    (isNodeOf : model.IsNodeOf node element)
    (kind : node.kind = ElementKind.buildTarget.name) :
    node.hasChildren = false ∧ node.children = [] := by
  obtain ⟨label, nodeKind, path, hasChildren, children⟩ := node
  obtain ⟨self, below⟩ := isNodeOf
  obtain ⟨_, kindEq, _, hasChildrenEq, _⟩ := TreeNode.node.inj self
  have isTarget : element.kind = .buildTarget := kind_eq_buildTarget (kindEq.symm.trans kind)
  cases element with
  | buildTarget owner name path =>
    refine ⟨hasChildrenEq, ?_⟩
    rcases below with none | same
    · exact none
    · exact List.map_eq_nil_iff.mp same
  | resource owner path isDirectory => cases isDirectory <;> cases isTarget
  | _ => cases isTarget

end Workspace

open Workspace

/-- The build targets of a project agree with the `cmd` folder beside them.

For every project on disk that can be opened, and where `cmd` is no link, the children of the build
targets are called like the directories in the folder, have the same paths and stand in the same
order. The folder is the only child of the project with this name, if there is one. Unless it is a
directory that can be read, there are no build targets and no directories in it, and otherwise both
are all the directories in it that are not hidden. In every tree, nothing stands below a build
target. -/
theorem build_targets_agree_with_folder (engine : Engine) (tree : FileTree)
    (start : FileTree.Place) (root : Path)
    (isWorkspace : engine.model = Workspace.model tree start root)
    (isWellFormed : tree.IsWellFormed) :
    (∀ project entries, tree.readDirectory start project.root = .ok entries →
      (∀ target, ("cmd", .link target) ∉ entries) →
      let folder := engine.model.targetsFolder project
      let targets := engine.model.children (.buildTargets project)
      let directories := folder.flatMap engine.model.directoriesIn
      .buildTargets project ∈ engine.model.children (.project project) ∧
      targets.map Element.caption = directories.map Element.caption ∧
      (∀ found, ("cmd", found) ∈ entries →
        folder = [.resource project (project.root.join ⟨"cmd"⟩) found.isDirectory]) ∧
      ((∀ found, ("cmd", found) ∉ entries) → folder = []) ∧
      ((∀ mode inside, ("cmd", .directory mode inside) ∈ entries →
          ¬ IsReadable tree start (project.root.join ⟨"cmd"⟩)) →
        targets = [] ∧ directories = []) ∧
      ∀ mode inside, ("cmd", .directory mode inside) ∈ entries →
        IsReadable tree start (project.root.join ⟨"cmd"⟩) →
        targets.map Element.caption = ((arrange inside).filter Listed.isDirectory).map fun listed =>
          (listed.name, some ((project.root.join ⟨"cmd"⟩).join ⟨listed.name⟩).text)) ∧
    ∀ depth shown, engine.tree depth = .ok shown → ∀ project ∈ shown.projects,
      ∀ node : TreeNode, node.IsIn project → node.kind = ElementKind.buildTarget.name →
        node.hasChildren = false ∧ node.children = [] := by
  constructor
  · rw [isWorkspace]
    intro project entries read noLink folder targets directories
    refine ⟨?_, captions_targetsFolder isWellFormed read noLink,
      fun found => targetsFolder_of_mem isWellFormed read,
      targetsFolder_of_missing isWellFormed read, fun closed => ?_,
      fun mode inside => captions_buildTargets_of_mem isWellFormed read⟩
    · rw [children_project ⟨entries, read⟩]
      exact List.mem_cons_self
    · have notReadable : ¬ IsReadable tree start (targetsDirectory project) := fun readable => by
        obtain ⟨mode, inside, member, _⟩ := exists_mem_of_isReadable read noLink readable
        exact closed mode inside member readable
      exact ⟨children_buildTargets_of_not_isReadable notReadable,
        directoriesIn_targetsFolder_of_not_isReadable isWellFormed read notReadable⟩
  · intro depth shown made project member node isIn kind
    obtain ⟨_, isNodeOf⟩ := Engine.exists_isNodeOf_of_tree made member isIn
    exact closed_of_buildTarget isNodeOf kind

/-- One project holds a folder with a directory and a hidden directory, and the other one has a file
in its place. -/
theorem build_targets_agree_with_folder_of_one_target :
    let inside : List (String × FileTree) :=
      [("a", .directory .executable []), (".git", .directory .executable [])]
    let entries : List (String × FileTree) :=
      [("cmd", .directory .executable inside), ("main.go", .file .plain [])]
    let top : List (String × FileTree) :=
      [("p", .directory .executable entries),
        ("q", .directory .executable [("cmd", .file .plain [])])]
    let tree : FileTree := .directory .executable top
    let engine : Engine := ⟨.standard, fun _ => .broken, Workspace.model tree [] ⟨"/"⟩⟩
    let first : Project := ⟨"p", Path.join ⟨"/"⟩ ⟨"p"⟩⟩
    let second : Project := ⟨"q", Path.join ⟨"/"⟩ ⟨"q"⟩⟩
    let folder : Element := .resource first (first.root.join ⟨"cmd"⟩) true
    tree.IsWellFormed ∧ engine.model.targetsFolder first = [folder] ∧
    (engine.model.children (.buildTargets first)).map Element.caption =
      [("a", some "/p/cmd/a")] ∧
    (engine.model.directoriesIn folder).map Element.caption = [("a", some "/p/cmd/a")] ∧
    engine.model.children (.buildTargets second) = [] ∧
    ∃ shown, engine.tree (some 2) = .ok shown ∧ ∃ project ∈ shown.projects,
      ∃ node : TreeNode, node.IsIn project ∧ node.kind = ElementKind.buildTarget.name ∧
        node.children = [] := by
  intro inside entries top tree engine first second folder
  have isWellFormed : tree.IsWellFormed := by
    have bare (mode : Mode) : (FileTree.directory mode []).IsWellFormed := ⟨List.nodup_nil, trivial⟩
    exact ⟨by decide, by decide, ⟨by decide, by decide,
      ⟨by decide, by decide, bare _, by decide, bare _, trivial⟩, by decide, trivial, trivial⟩,
      by decide, ⟨by decide, by decide, trivial, trivial⟩, trivial⟩
  have located : tree.locate [] ⟨"/"⟩ = .ok [] :=
    FileTree.locate_eq_ok_iff.mpr ⟨by decide, by decide, by decide, rfl⟩
  have read : tree.readDirectory [] ⟨"/"⟩ = .ok top :=
    FileTree.readDirectory_eq_ok_iff.mpr ⟨_, _, located, rfl, rfl⟩
  have firstLocated : tree.locate [] first.root = .ok ["p"] :=
    (FileTree.locate_join_iff (by decide) located rfl rfl).mpr ⟨rfl, rfl, by decide, by decide⟩
  have firstRead : tree.readDirectory [] first.root = .ok entries :=
    FileTree.readDirectory_eq_ok_iff.mpr ⟨_, _, firstLocated, rfl, rfl⟩
  have secondRead : tree.readDirectory [] second.root = .ok [("cmd", .file .plain [])] :=
    (FileTree.readDirectory_join_iff isWellFormed located rfl (.tail _ (.head _))).mpr
      ⟨rfl, rfl, rfl, by decide, by decide⟩
  have folderRead : tree.readDirectory [] (targetsDirectory first) = .ok inside :=
    (FileTree.readDirectory_join_iff isWellFormed firstLocated rfl (.head _)).mpr
      ⟨rfl, rfl, rfl, by decide, by decide⟩
  have arranged : arrange inside = [⟨"a", true⟩] := List.perm_singleton.mp (perm_arrange inside)
  obtain ⟨agree, closed⟩ :=
    build_targets_agree_with_folder engine tree [] ⟨"/"⟩ rfl isWellFormed
  obtain ⟨member, same, only, _, _, captions⟩ := agree first entries firstRead (by simp [entries])
  obtain ⟨_, _, _, _, none, _⟩ := agree second _ secondRead (by simp)
  have single := only _ (.head _)
  have captions : (engine.model.children (.buildTargets first)).map Element.caption =
      [("a", some "/p/cmd/a")] := by
    rw [captions _ _ (.head _) ⟨_, folderRead⟩, arranged]
    decide
  rw [single, List.flatMap_singleton] at same
  have made := engine.tree_of_roots (roots_of_readDirectory read) 2
  -- The way down goes from the project over its build targets to the only one of them.
  have listed : (⟨"p", true⟩ : Listed) ∈ (arrange top).filter Listed.isDirectory :=
    List.mem_filter.mpr ⟨mem_arrange_iff.mpr ⟨_, .head _, by decide, rfl⟩, rfl⟩
  have shown : engine.model.unfold 2 (.project first) ∈
      (((arrange top).filter Listed.isDirectory).map (projectOf ⟨"/"⟩)).map
        (engine.model.unfold 2) :=
    List.mem_map_of_mem (List.mem_map_of_mem listed)
  have target : Element.buildTarget first "a" ((targetsDirectory first).join ⟨"a"⟩) ∈
      engine.model.children (.buildTargets first) := by
    rw [children_buildTargets folderRead, arranged]
    exact .head _
  have lower : engine.model.unfold 0 (.buildTarget first "a" ((targetsDirectory first).join ⟨"a"⟩)) ∈
      (engine.model.unfold 1 (.buildTargets first)).children := by
    rw [Model.unfold_succ]
    exact List.mem_map_of_mem target
  have upper : engine.model.unfold 1 (.buildTargets first) ∈
      (engine.model.unfold 2 (.project first)).children := by
    rw [Model.unfold_succ]
    exact List.mem_map_of_mem member
  have isIn := TreeNode.IsIn.deeper upper (.deeper lower (.self _))
  exact ⟨isWellFormed, single, captions, same.symm.trans captions,
    (none fun mode inside member => by simp at member).1, _, made, _, shown, _, isIn, rfl,
    (closed _ _ made _ shown _ isIn rfl).2⟩

end CodeNavigator
