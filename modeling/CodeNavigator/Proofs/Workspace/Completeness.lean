/-
This file says what the unlimited tree of a workspace on disk shows, for every disk. The tree is made
by listing directories by their paths, while the disk is a tree of names. A listing is only asked for
where a directory itself stands in a directory that was listed, so every listing is that of the
directory at the end of the same names, and no way down goes on where the disk ends. A link is listed
as a file, and nothing is asked for below it, wherever it leads.

What is shown at the end of some names is then read off by induction on the names: one node if the
names lead there through directories that are shown and can be read, and none otherwise.
-/

import CodeNavigator.Proofs.FileTree.Walking
import CodeNavigator.Proofs.Navigator.Unfolding
import CodeNavigator.Proofs.Workspace.Listing

namespace CodeNavigator

/-! ### Nodes by their labels -/

namespace TreeNode

/-- Whether a node stands for a directory or a file. -/
def isResource (node : TreeNode) : Bool :=
  node.kind = ElementKind.directory.name || node.kind = ElementKind.file.name

/-- All nodes at the end of some labels below a node. -/
def along : List String → TreeNode → List TreeNode
  | [], whole => [whole]
  | label :: labels, whole =>
    (whole.children.filter fun child => child.label = label).flatMap (along labels)

end TreeNode

namespace Workspace

/-! ### What is to be shown -/

/-- A directory can be read by its path. Its mode, the modes above it and the length of the path
decide this. -/
def IsReadable (tree : FileTree) (start : FileTree.Place) (path : Path) : Prop :=
  ∃ entries, tree.readDirectory start path = .ok entries

/-- Some names lead from what stands at a path to what stands at another, through directories that
can be read and names that are not hidden. A link has no entries of its own, wherever it leads. -/
inductive Descends (tree : FileTree) (start : FileTree.Place) :
    Path → FileTree → List String → Path → FileTree → Prop
  | here (path : Path) (found : FileTree) : Descends tree start path found [] path found
  | further {path target : Path} {found entry there : FileTree} {name : String} {names : List String}
    (readable : IsReadable tree start path) (shown : isHidden name = false)
    (is : found.child? name = some entry)
    (descends : Descends tree start (path.join ⟨name⟩) entry names target there) :
    Descends tree start path found (name :: names) target there

/-- A node shows what stands at a path. -/
structure Shows (tree : FileTree) (start : FileTree.Place) (target : Path) (found : FileTree)
    (node : TreeNode) : Prop where
  kind : node.kind = if found.isDirectory then "directory" else "file"
  path : node.path = some target.text
  hasChildren : node.hasChildren = found.isDirectory
  closed : ¬ (found.isDirectory ∧ IsReadable tree start target) → node.children = []

/-- Some nodes are what is to be shown at the end of some names: one node if they lead somewhere,
and none otherwise. -/
def Depicts (tree : FileTree) (start : FileTree.Place) (path : Path) (found : FileTree)
    (names : List String) (nodes : List TreeNode) : Prop :=
  (∀ target there, Descends tree start path found names target there →
    ∃ node, nodes = [node] ∧ Shows tree start target there node) ∧
  ((∀ target there, ¬ Descends tree start path found names target there) → nodes = [])

variable {tree : FileTree} {start : FileTree.Place} {root path target : Path}
  {found entry there : FileTree} {entries : List (String × FileTree)} {name : String}
  {names : List String} {project : Project}

theorem descends_cons_iff :
    Descends tree start path found (name :: names) target there ↔
      IsReadable tree start path ∧ isHidden name = false ∧ ∃ entry,
        found.child? name = some entry ∧
          Descends tree start (path.join ⟨name⟩) entry names target there := by
  constructor
  · rintro (_ | ⟨readable, shown, is, descends⟩)
    exact ⟨readable, shown, _, is, descends⟩
  · rintro ⟨readable, shown, entry, is, descends⟩
    exact .further readable shown is descends

theorem depicts_nothing
    (nowhere : ∀ target there, ¬ Descends tree start path found names target there) :
    Depicts tree start path found names [] :=
  ⟨fun target there descends => absurd descends (nowhere target there), fun _ => rfl⟩

/-- Nothing is to be shown below what cannot be read. -/
theorem not_descends_of_not_isReadable (closed : ¬ IsReadable tree start path) :
    ¬ Descends tree start path found (name :: names) target there := fun descends =>
  closed (descends_cons_iff.mp descends).1

/-! ### Directories behind their paths -/

/-- What stands in the tree is what the path to it leads to, as far as it can be read. -/
def Opens (tree : FileTree) (start : FileTree.Place) (path : Path) (found : FileTree) : Prop :=
  ∀ entries, tree.readDirectory start path = .ok entries →
    ∃ mode, found = .directory mode entries

theorem opens_join (isWellFormed : tree.IsWellFormed)
    (read : tree.readDirectory start path = .ok entries) (member : (name, found) ∈ entries)
    (isDirectory : found.isDirectory = true) :
    Opens tree start (path.join ⟨name⟩) found := by
  intro inside readBelow
  cases found with
  | directory mode below =>
    obtain ⟨place, outer, located, here⟩ := FileTree.exists_look_of_readDirectory read
    obtain ⟨rfl, _⟩ :=
      (FileTree.readDirectory_join_iff isWellFormed located here member).mp readBelow
    exact ⟨mode, rfl⟩
  | _ => cases isDirectory

theorem resources_of_readDirectory (read : tree.readDirectory start path = .ok entries) :
    (model tree start root).resources project path = (arrange entries).map fun listed =>
      .resource project (path.join ⟨listed.name⟩) listed.isDirectory := by
  simp only [Model.resources, model, list_of_readDirectory read, Except.map, List.map_map]
  rfl

theorem resources_of_not_isReadable (closed : ¬ IsReadable tree start path) :
    (model tree start root).resources project path = [] := by
  cases read : tree.readDirectory start path with
  | ok entries => exact absurd ⟨entries, read⟩ closed
  | error error => simp only [Model.resources, model, list, read, Except.map]

theorem isAccessible_iff :
    (model tree start root).isAccessible project = true ↔ IsReadable tree start project.root := by
  simp only [model, IsReadable]
  cases tree.readDirectory start project.root <;> simp [Except.toOption]

theorem children_project (readable : IsReadable tree start project.root) :
    (model tree start root).children (.project project) =
      .buildTargets project :: (model tree start root).resources project project.root :=
  if_pos (isAccessible_iff.mpr readable)

theorem children_project_of_not_isReadable (closed : ¬ IsReadable tree start project.root) :
    (model tree start root).children (.project project) = [] :=
  if_neg (mt isAccessible_iff.mp closed)

/-- The resources in a directory are its entries, and every directory among them stands in the tree
again. -/
theorem exists_entry_of_mem_resources {child : Element} (isWellFormed : tree.IsWellFormed)
    (opens : Opens tree start path found)
    (member : child ∈ (model tree start root).resources project path) :
    ∃ mode entries name entry, found = .directory mode entries ∧ (name, entry) ∈ entries ∧
      child = .resource project (path.join ⟨name⟩) entry.isDirectory ∧
      (entry.isDirectory = true → Opens tree start (path.join ⟨name⟩) entry) := by
  by_cases readable : IsReadable tree start path
  · obtain ⟨entries, read⟩ := readable
    obtain ⟨mode, same⟩ := opens entries read
    rw [resources_of_readDirectory read] at member
    obtain ⟨listed, arranged, rfl⟩ := List.mem_map.mp member
    obtain ⟨⟨name, entry⟩, inside, _, rfl⟩ := mem_arrange_iff.mp arranged
    exact ⟨mode, entries, name, entry, same, inside, rfl, opens_join isWellFormed read inside⟩
  · rw [resources_of_not_isReadable readable] at member
    cases member

/-! ### No way down without end -/

/-- Every way down from a directory follows the tree, and ends with it. -/
theorem ends_resource (root : Path) (project : Project) (isWellFormed : tree.IsWellFormed)
    (found : FileTree) {path : Path} (opens : found.isDirectory = true → Opens tree start path found) :
    (model tree start root).Ends (.resource project path found.isDirectory) := by
  induction found using FileTree.induction_entries generalizing path with
  | directory mode entries inductionHypothesis =>
    refine .intro fun child member => ?_
    obtain ⟨_, _, name, entry, same, inside, rfl, opensBelow⟩ :=
      exists_entry_of_mem_resources isWellFormed (opens rfl) member
    cases same
    exact inductionHypothesis name entry inside opensBelow
  | other found isFile =>
    rw [isFile]
    exact Model.ends_of_children_eq_nil rfl

theorem ends_buildTargets : (model tree start root).Ends (.buildTargets project) := by
  refine .intro fun child member => ?_
  simp only [Model.children] at member
  split at member
  · obtain ⟨target, _, rfl⟩ := List.mem_map.mp member
    exact Model.ends_of_children_eq_nil rfl
  · cases member

theorem ends_project (root : Path) (isWellFormed : tree.IsWellFormed)
    (opens : Opens tree start project.root found) :
    (model tree start root).Ends (.project project) := by
  by_cases readable : IsReadable tree start project.root
  · refine .intro fun child member => ?_
    rw [children_project readable] at member
    rcases List.mem_cons.mp member with rfl | member
    · exact ends_buildTargets
    · obtain ⟨_, _, _, entry, _, _, rfl, opensBelow⟩ :=
        exists_entry_of_mem_resources isWellFormed opens member
      exact ends_resource root project isWellFormed entry opensBelow
  · exact Model.ends_of_children_eq_nil (children_project_of_not_isReadable readable)

/-! ### Nodes at the end of names -/

/-- The directories and files at the end of some names below an element. -/
def nodesAt (model : Model) (names : List String) (element : Element) : List TreeNode :=
  ((model.fullNode element).along names).filter TreeNode.isResource

/-- The way to the end of some names goes through the children with the first of them. -/
theorem nodesAt_cons {model : Model} {element : Element} (ends : model.Ends element) :
    nodesAt model (name :: names) element =
      ((model.children element).filter fun child => child.label = name).flatMap
        (nodesAt model names) := by
  have labels : (model.children element).filter
      ((fun node : TreeNode => node.label = name) ∘ model.fullNode) =
        (model.children element).filter fun child => child.label = name :=
    List.filter_congr fun child member => by
      rw [Function.comp_apply, (ends.child member).fullNode_eq]
      rfl
  rw [nodesAt, ends.fullNode_eq, TreeNode.along]
  simp only [Model.node, TreeNode.children]
  rw [List.filter_map, labels, List.flatMap_map, List.filter_flatMap]
  rfl

theorem nodesAt_buildTarget {model : Model} (label : String) (path : Path) :
    nodesAt model names (.buildTarget project label path) = [] := by
  have ends : model.Ends (.buildTarget project label path) := Model.ends_of_children_eq_nil rfl
  cases names with
  | nil =>
    rw [nodesAt, ends.fullNode_eq]
    rfl
  | cons name names =>
    rw [nodesAt_cons ends]
    rfl

/-- The build targets are no directories or files, and have none below them. -/
theorem nodesAt_buildTargets :
    nodesAt (model tree start root) names (.buildTargets project) = [] := by
  cases names with
  | nil =>
    rw [nodesAt, ends_buildTargets.fullNode_eq]
    rfl
  | cons name names =>
    rw [nodesAt_cons ends_buildTargets, List.flatMap_eq_nil_iff]
    intro child member
    have member := List.mem_of_mem_filter member
    simp only [Model.children] at member
    split at member
    · obtain ⟨target, _, rfl⟩ := List.mem_map.mp member
      exact nodesAt_buildTarget target.1 target.2
    · cases member

/-- Below a project and below a directory, the way to the end of some names goes through the
listing. -/
theorem nodesAt_project (ends : (model tree start root).Ends (.project project))
    (readable : IsReadable tree start project.root) :
    nodesAt (model tree start root) (name :: names) (.project project) =
      (((model tree start root).resources project project.root).filter
        fun child => child.label = name).flatMap (nodesAt (model tree start root) names) := by
  rw [nodesAt_cons ends, children_project readable, List.filter_cons]
  split
  · rw [List.flatMap_cons, nodesAt_buildTargets, List.nil_append]
  · rfl

/-- The entries of a directory with one name. -/
theorem filter_resources (isWellFormed : tree.IsWellFormed)
    (read : tree.readDirectory start path = .ok entries) :
    (((model tree start root).resources project path).filter fun child => child.label = name) =
      ((arrange entries).filter fun listed => listed.name = name).map fun listed =>
        .resource project (path.join ⟨listed.name⟩) listed.isDirectory := by
  rw [resources_of_readDirectory read, List.filter_map]
  refine congrArg _ (List.filter_congr fun listed member => ?_)
  have isName := isName_of_mem_arrange (isWellFormed.readDirectory read .plain) member
  rw [Function.comp_apply, Element.label, Path.fileName_join path isName.components_eq]
  rfl

/-- What is shown at the end of some names, if what is shown one name further is right. -/
theorem depicts_cons (isWellFormed : tree.IsWellFormed) (opens : Opens tree start path found)
    (deeper : ∀ path entry, (entry.isDirectory = true → Opens tree start path entry) →
      Depicts tree start path entry names
        (nodesAt (model tree start root) names (.resource project path entry.isDirectory))) :
    Depicts tree start path found (name :: names)
      ((((model tree start root).resources project path).filter
        fun child => child.label = name).flatMap (nodesAt (model tree start root) names)) := by
  by_cases readable : IsReadable tree start path
  · obtain ⟨entries, read⟩ := readable
    obtain ⟨mode, rfl⟩ := opens entries read
    have foundIsWellFormed := isWellFormed.readDirectory read mode
    rw [filter_resources isWellFormed read]
    by_cases listed : isHidden name = false ∧ ∃ entry, (name, entry) ∈ entries
    · obtain ⟨shown, entry, member⟩ := listed
      have is := foundIsWellFormed.child?_eq_some_iff.mpr member
      obtain ⟨leads, missing⟩ :=
        deeper (path.join ⟨name⟩) entry (opens_join isWellFormed read member)
      rw [filter_arrange_of_mem foundIsWellFormed.1 member shown, List.map_singleton,
        List.flatMap_singleton]
      constructor
      · intro target there descends
        obtain ⟨_, _, other, same, descends⟩ := descends_cons_iff.mp descends
        cases is.symm.trans same
        exact leads target there descends
      · intro nowhere
        refine missing fun target there descends => nowhere target there ?_
        exact .further ⟨entries, read⟩ shown is descends
    · have missing (entry : FileTree) (member : (name, entry) ∈ entries) : isHidden name = true := by
        by_contra shown
        exact listed ⟨eq_false_of_ne_true shown, entry, member⟩
      rw [filter_arrange_of_missing missing]
      refine depicts_nothing fun target there descends => ?_
      obtain ⟨_, shown, entry, is, _⟩ := descends_cons_iff.mp descends
      exact listed ⟨shown, entry, FileTree.mem_of_child? is⟩
  · rw [resources_of_not_isReadable readable]
    exact depicts_nothing fun _ _ => not_descends_of_not_isReadable readable

/-- A file or a directory is shown as one. -/
theorem shows_fullNode (root : Path) (project : Project) (isWellFormed : tree.IsWellFormed)
    (opens : found.isDirectory = true → Opens tree start path found) :
    Shows tree start path found
      ((model tree start root).fullNode (.resource project path found.isDirectory)) := by
  rw [(ends_resource root project isWellFormed found opens).fullNode_eq]
  refine ⟨?_, rfl, rfl, fun closed => ?_⟩
  · cases found.isDirectory <;> rfl
  · have bare : (model tree start root).children (.resource project path found.isDirectory) = [] := by
      cases isDirectory : found.isDirectory with
      | false => rfl
      | true =>
        exact resources_of_not_isReadable fun readable => closed ⟨isDirectory, readable⟩
    rw [bare]
    rfl

/-- Below a file or a directory, everything to be shown is shown. -/
theorem depicts_nodesAt (isWellFormed : tree.IsWellFormed)
    (opens : found.isDirectory = true → Opens tree start path found) :
    Depicts tree start path found names
      (nodesAt (model tree start root) names (.resource project path found.isDirectory)) := by
  induction names generalizing path found with
  | nil =>
    have shows := shows_fullNode root project isWellFormed opens
    constructor
    · intro target there descends
      cases descends
      refine ⟨_, List.filter_cons_of_pos ?_, shows⟩
      rw [TreeNode.isResource, shows.kind]
      cases found.isDirectory <;> rfl
    · intro nowhere
      exact absurd (.here path found) (nowhere path found)
  | cons name names inductionHypothesis =>
    have ends := ends_resource root project isWellFormed found opens
    cases isDirectory : found.isDirectory with
    | true =>
      rw [isDirectory] at ends
      rw [nodesAt_cons ends]
      exact depicts_cons isWellFormed (opens isDirectory) fun _ _ => inductionHypothesis
    | false =>
      rw [isDirectory] at ends
      rw [nodesAt_cons ends]
      refine depicts_nothing fun target there descends => ?_
      obtain ⟨_, _, _, is, _⟩ := descends_cons_iff.mp descends
      cases found with
      | directory => cases isDirectory
      | _ => cases is

/-! ### Projects -/

/-- The project of a directory in the root. -/
def projectOf (root : Path) (listed : Listed) : Element :=
  .project ⟨listed.name, root.join ⟨listed.name⟩⟩

/-- The projects are the directories that are shown in the root. -/
theorem roots_of_readDirectory (read : tree.readDirectory start root = .ok entries) :
    (model tree start root).roots =
      .ok (((arrange entries).filter Listed.isDirectory).map (projectOf root)) := by
  simp only [Model.roots, model, list_of_readDirectory read, Except.map, directories_map,
    List.map_map]
  rfl

theorem ends_projectOf (isWellFormed : tree.IsWellFormed)
    (read : tree.readDirectory start root = .ok entries) {listed : Listed}
    (member : listed ∈ (arrange entries).filter Listed.isDirectory) :
    (model tree start root).Ends (projectOf root listed) := by
  obtain ⟨arranged, isDirectory⟩ := List.mem_filter.mp member
  obtain ⟨⟨name, found⟩, inside, _, rfl⟩ := mem_arrange_iff.mp arranged
  exact ends_project root isWellFormed (opens_join isWellFormed read inside isDirectory)

/-- The nodes of the projects with one name. -/
theorem filter_projects (isWellFormed : tree.IsWellFormed)
    (read : tree.readDirectory start root = .ok entries) (name : String) :
    (((((arrange entries).filter Listed.isDirectory).map (projectOf root)).map
      (model tree start root).fullNode).filter fun project => project.label = name) =
        (((arrange entries).filter fun listed => listed.name = name).filter
          Listed.isDirectory).map ((model tree start root).fullNode ∘ projectOf root) := by
  have labels : ((arrange entries).filter Listed.isDirectory).filter
      ((fun project : TreeNode => project.label = name) ∘
        (model tree start root).fullNode ∘ projectOf root) =
      ((arrange entries).filter Listed.isDirectory).filter fun listed => listed.name = name :=
    List.filter_congr fun listed member => by
      rw [Function.comp_apply, Function.comp_apply,
        (ends_projectOf isWellFormed read member).fullNode_eq]
      rfl
  rw [List.map_map, List.filter_map, labels, List.filter_filter, List.filter_filter]
  exact congrArg _ (List.filter_congr fun listed _ => Bool.and_comm _ _)

/-- A project that can be read can be opened, and one that cannot is shown without children. -/
theorem fullNode_project (root : Path) (project : Project) (isWellFormed : tree.IsWellFormed)
    (opens : Opens tree start project.root found) :
    let node := (model tree start root).fullNode (.project project)
    node.kind = "project" ∧ node.path = some project.root.text ∧
      (node.hasChildren = true ↔ IsReadable tree start project.root) ∧
      (¬ IsReadable tree start project.root → node.children = []) := by
  rw [(ends_project root isWellFormed opens).fullNode_eq]
  refine ⟨rfl, rfl, isAccessible_iff, fun closed => ?_⟩
  rw [children_project_of_not_isReadable closed]
  rfl

/-- A project is shown with all that is to be shown below it. -/
theorem depicts_along_project (root : Path) (project : Project)
    (isWellFormed : tree.IsWellFormed)
    (opens : Opens tree start project.root found) (further : names ≠ []) :
    Depicts tree start project.root found names
      (nodesAt (model tree start root) names (.project project)) := by
  obtain ⟨name, names, rfl⟩ := List.exists_cons_of_ne_nil further
  have ends := ends_project root isWellFormed opens
  by_cases readable : IsReadable tree start project.root
  · rw [nodesAt_project ends readable]
    exact depicts_cons isWellFormed opens fun path entry => depicts_nodesAt isWellFormed
  · rw [nodesAt_cons ends, children_project_of_not_isReadable readable]
    exact depicts_nothing fun _ _ => not_descends_of_not_isReadable readable

end Workspace

open Workspace

/-- The unlimited tree of a workspace on disk.

It is finite, whatever the disk holds, and its projects are the directories in the root that are not
hidden. Below a project, the nodes at the end of some names are one that shows what the names lead
to, if they lead there through directories that can be read and are not hidden, and none otherwise. A
link is no directory and is shown as a file, with nothing below it. What cannot be read is shown
without children and changes nothing elsewhere. -/
theorem unlimited_tree_shows_disk (engine : Engine) (tree : FileTree) (start : FileTree.Place)
    (root : Path) (entries : List (String × FileTree))
    (isWorkspace : engine.model = Workspace.model tree start root)
    (isWellFormed : tree.IsWellFormed) (read : tree.readDirectory start root = .ok entries) :
    ∃ roots shown, engine.model.roots = .ok roots ∧
      engine.tree? none = some (.ok shown) ∧ engine.tree none = .ok shown ∧
      List.Forall₂ (fun element node => engine.model.unfoldAll element = some node) roots
        shown.projects ∧
      (∀ name,
        (∀ found, (name, found) ∈ entries → isHidden name = true ∨ found.isDirectory = false) →
          (shown.projects.filter fun project => project.label = name) = []) ∧
      ∀ name found, (name, found) ∈ entries → isHidden name = false → found.isDirectory = true →
        ∃ project, (shown.projects.filter fun project => project.label = name) = [project] ∧
          project.kind = "project" ∧ project.path = some (root.join ⟨name⟩).text ∧
          (project.hasChildren = true ↔ IsReadable tree start (root.join ⟨name⟩)) ∧
          (¬ IsReadable tree start (root.join ⟨name⟩) → project.children = []) ∧
          ∀ names, names ≠ [] →
            Depicts tree start (root.join ⟨name⟩) found names
              ((project.along names).filter TreeNode.isResource) := by
  have listed := roots_of_readDirectory read
  have ends (element : Element)
      (member : element ∈ ((arrange entries).filter Listed.isDirectory).map (projectOf root)) :
      (Workspace.model tree start root).Ends element := by
    obtain ⟨listed, inside, rfl⟩ := List.mem_map.mp member
    exact ends_projectOf isWellFormed read inside
  have distinct := (isWellFormed.readDirectory read .plain).1
  rw [← isWorkspace] at listed ends
  have made := Engine.tree?_of_ends listed ends
  refine ⟨_, _, listed, made, Engine.tree_of_tree? made,
    Model.forall₂_fullNode fun element member => (ends element member).exists_unfoldAll,
    fun name missing => ?_, fun name found member shown isDirectory => ?_⟩
  · rw [isWorkspace, filter_projects isWellFormed read, List.map_eq_nil_iff,
      List.filter_eq_nil_iff]
    intro listed member
    obtain ⟨arranged, called⟩ := List.mem_filter.mp member
    obtain ⟨⟨_, found⟩, inside, shown, rfl⟩ := mem_arrange_iff.mp arranged
    obtain rfl := of_decide_eq_true called
    rcases missing found inside with hidden | isFile
    · rw [shown] at hidden
      cases hidden
    · exact ne_true_of_eq_false isFile
  · rw [isWorkspace, filter_projects isWellFormed read, filter_arrange_of_mem distinct member shown,
      isDirectory]
    have opens := opens_join isWellFormed read member isDirectory
    obtain ⟨kind, path, hasChildren, closed⟩ :=
      fullNode_project root ⟨name, root.join ⟨name⟩⟩ isWellFormed opens
    exact ⟨_, rfl, kind, path, hasChildren, closed, fun names further =>
      depicts_along_project root ⟨name, root.join ⟨name⟩⟩ isWellFormed opens further⟩

/-- A project holds a link that leads back to it, a hidden directory, and a directory that cannot be
read. Beside it stand a link to it and a directory that cannot be read. -/
theorem unlimited_tree_shows_disk_with_links :
    let inner : FileTree := .directory .executable [("loop", .link ⟨".."⟩)]
    let project : FileTree := .directory .executable
      [("inner", inner), (".git", .directory .executable []), ("locked", .directory ⟨0⟩ [])]
    let tree : FileTree := .directory .executable
      [("project", project), ("link", .link ⟨"project"⟩), ("shut", .directory ⟨0⟩ [])]
    let engine : Engine := ⟨.standard, fun _ => .broken, Workspace.model tree [] ⟨"/"⟩⟩
    tree.IsWellFormed ∧ ∃ shown, engine.tree? none = some (.ok shown) ∧
      (shown.projects.filter fun node => node.label = "link") = [] ∧
      (∃ shut, (shown.projects.filter fun node => node.label = "shut") = [shut] ∧
        shut.hasChildren = false ∧ shut.children = []) ∧
      ∃ whole, (shown.projects.filter fun node => node.label = "project") = [whole] ∧
        whole.hasChildren = true ∧
        (whole.along [".git"]).filter TreeNode.isResource = [] ∧
        (∃ loop, (whole.along ["inner", "loop"]).filter TreeNode.isResource = [loop] ∧
          loop.kind = "file" ∧ loop.children = []) ∧
        (whole.along ["inner", "loop", "inner"]).filter TreeNode.isResource = [] ∧
        ∃ locked, (whole.along ["locked"]).filter TreeNode.isResource = [locked] ∧
          locked.kind = "directory" ∧ locked.children = [] := by
  intro inner project tree engine
  have isWellFormed : tree.IsWellFormed := by
    have bare (mode : Mode) : (FileTree.directory mode []).IsWellFormed := ⟨List.nodup_nil, trivial⟩
    exact ⟨by simp, by decide, ⟨by simp, by decide, ⟨by simp, by decide, trivial, trivial⟩,
      by decide, bare _, by decide, bare _, trivial⟩, by decide, trivial, by decide, bare _, trivial⟩
  have located : tree.locate [] ⟨"/"⟩ = .ok [] :=
    FileTree.locate_eq_ok_iff.mpr ⟨by decide, by decide, by decide, rfl⟩
  have locatedProject : tree.locate [] (Path.join ⟨"/"⟩ ⟨"project"⟩) = .ok ["project"] :=
    (FileTree.locate_join_iff (by decide) located rfl rfl).mpr
      ⟨rfl, rfl, by decide, by decide⟩
  have read : tree.readDirectory [] ⟨"/"⟩ = .ok
      [("project", project), ("link", .link ⟨"project"⟩), ("shut", .directory ⟨0⟩ [])] :=
    FileTree.readDirectory_eq_ok_iff.mpr ⟨_, _, located, rfl, rfl⟩
  have projectReadable : IsReadable tree [] (Path.join ⟨"/"⟩ ⟨"project"⟩) :=
    ⟨_, FileTree.readDirectory_eq_ok_iff.mpr ⟨_, _, locatedProject, rfl, rfl⟩⟩
  have innerReadable : IsReadable tree [] ((Path.join ⟨"/"⟩ ⟨"project"⟩).join ⟨"inner"⟩) :=
    ⟨_, (FileTree.readDirectory_join_iff isWellFormed locatedProject rfl (.head _)).mpr
      ⟨rfl, rfl, rfl, by decide, by decide⟩⟩
  have shutNotReadable : ¬ IsReadable tree [] (Path.join ⟨"/"⟩ ⟨"shut"⟩) := by
    rintro ⟨entries, read⟩
    have mayRead := ((FileTree.readDirectory_join_iff isWellFormed located rfl
      (.tail _ (.tail _ (.head _)))).mp read).2.1
    cases mayRead
  have lockedNotReadable : ¬ IsReadable tree []
      ((Path.join ⟨"/"⟩ ⟨"project"⟩).join ⟨"locked"⟩) := by
    rintro ⟨entries, read⟩
    have mayRead := ((FileTree.readDirectory_join_iff isWellFormed locatedProject rfl
      (.tail _ (.tail _ (.head _)))).mp read).2.1
    cases mayRead
  have innerIs : project.child? "inner" = some inner := rfl
  have loopIs : inner.child? "loop" = some (.link ⟨".."⟩) := rfl
  obtain ⟨_, shown, _, made, _, _, others, each⟩ :=
    unlimited_tree_shows_disk engine tree [] ⟨"/"⟩ _ rfl isWellFormed read
  obtain ⟨shut, onlyShut, _, _, shutOpens, shutBare, _⟩ :=
    each "shut" (.directory ⟨0⟩ []) (by simp) (by decide) rfl
  obtain ⟨whole, onlyWhole, _, _, wholeOpens, _, depicts⟩ :=
    each "project" project (by simp) (by decide) rfl
  refine ⟨isWellFormed, shown, made, others "link" ?_,
    ⟨shut, onlyShut, eq_false_of_ne_true (mt shutOpens.mp shutNotReadable),
      shutBare shutNotReadable⟩,
    whole, onlyWhole, wholeOpens.mpr projectReadable, ?_, ?_, ?_, ?_⟩
  · intro found member
    obtain rfl : found = .link ⟨"project"⟩ := by simpa using member
    exact Or.inr rfl
  · refine (depicts [".git"] (List.cons_ne_nil _ _)).2 fun target there descends => ?_
    have hidden := (descends_cons_iff.mp descends).2.1
    exact absurd hidden (by decide)
  · obtain ⟨loop, only, shows⟩ := (depicts ["inner", "loop"] (List.cons_ne_nil _ _)).1 _ _
      (.further projectReadable (by decide) innerIs
        (.further innerReadable (by decide) loopIs (.here _ _)))
    exact ⟨loop, only, shows.kind, shows.closed fun closed => by cases closed.1⟩
  · refine (depicts ["inner", "loop", "inner"] (List.cons_ne_nil _ _)).2
      fun target there descends => ?_
    obtain ⟨_, _, _, is, descends⟩ := descends_cons_iff.mp descends
    cases innerIs.symm.trans is
    obtain ⟨_, _, _, is, descends⟩ := descends_cons_iff.mp descends
    cases loopIs.symm.trans is
    obtain ⟨_, _, _, is, _⟩ := descends_cons_iff.mp descends
    cases is
  · obtain ⟨locked, only, shows⟩ := (depicts ["locked"] (List.cons_ne_nil _ _)).1 _ _
      (.further projectReadable (by decide) rfl (.here _ _))
    exact ⟨locked, only, shows.kind, shows.closed fun closed => lockedNotReadable closed.2⟩

end CodeNavigator
