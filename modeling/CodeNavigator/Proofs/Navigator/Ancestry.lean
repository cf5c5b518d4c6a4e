/-
This file proves that going up in the navigator is the inverse of going down. Children come from the
listings of a model and parents from the paths alone, so the two can only agree if listings keep to
directories: every entry lies in the directory that was listed, one plain step below it. This is how
a workspace on disk lists its directories.

The argument is about components. Every step down into a directory adds one component to the path of
a resource, so the path of a resource begins with the components of its project and goes on behind
them. A parent takes one component away, and reaches the components of the project exactly when the
step down started at the project. How the root of the project is spelled does not matter.
-/

import CodeNavigator.Proofs.Workspace.Listing

namespace CodeNavigator

/-! ### Ways down -/

/-- The listings of a model keep to directories, and nothing stands before the build targets. -/
structure Model.KeepsToDirectories (model : Model) : Prop where
  members : ∀ project directory entries, model.members project directory = .ok entries →
    ∀ entry ∈ entries, ∃ name step,
      name.components = [.normal step] ∧ entry.path = directory.join name
  firstChildren : ∀ project, model.firstChildren project = []

/-- An element is reached from a root over the given elements, the last one first. -/
inductive Model.Leads (model : Model) : List Element → Element → Prop
  | root {roots : List Element} {root : Element} (listed : model.roots = .ok roots)
    (member : root ∈ roots) : model.Leads [] root
  | child {above : List Element} {element child : Element} (leads : model.Leads above element)
    (member : child ∈ model.children element) : model.Leads (element :: above) child

namespace Element

theorem same_refl (element : Element) : element.Same element := by
  cases element with
  | project => exact ⟨rfl, rfl⟩
  | buildTargets => exact ⟨rfl, rfl⟩
  | buildTarget => exact ⟨⟨rfl, rfl⟩, rfl, rfl⟩
  | resource => exact ⟨⟨rfl, rfl⟩, rfl, rfl⟩

/-- A step down from an element: to the folder of the build targets, to one of these, or into a
directory. -/
inductive IsOver : Element → Element → Prop
  | targets (owner : Project) : IsOver (.project owner) (.buildTargets owner)
  | target (owner : Project) (name : String) (path : Path) :
    IsOver (.buildTargets owner) (.buildTarget owner name path)
  | top (owner : Project) {name : Path} {step : String} (isDirectory : Bool)
    (plain : name.components = [.normal step]) :
    IsOver (.project owner) (.resource owner (owner.root.join name) isDirectory)
  | inner (owner : Project) (directory : Path) {name : Path} {step : String} (isDirectory : Bool)
    (plain : name.components = [.normal step]) :
    IsOver (.resource owner directory true) (.resource owner (directory.join name) isDirectory)

/-- A resource lies below the root of its project. -/
def IsInside : Element → Prop
  | .resource owner path _ => ∃ first rest,
    path.components = owner.root.components ++ first :: rest
  | _ => True

variable {above : List Element} {element child other : Element}

/-- A step down leads to the inside of a project. -/
theorem IsOver.isInside (isOver : IsOver element child) (isInside : element.IsInside) :
    child.IsInside := by
  cases isOver with
  | targets => trivial
  | target => trivial
  | top owner _ plain => exact ⟨_, [], Path.components_join _ plain⟩
  | inner owner directory _ plain =>
    obtain ⟨first, rest, shape⟩ := isInside
    have joined := Path.components_join directory plain
    rw [shape, List.append_assoc, List.cons_append] at joined
    exact ⟨first, _, joined⟩

end Element

variable {model : Model} {above : List Element} {element child other : Element}

namespace Model

theorem KeepsToDirectories.exists_join (keeps : model.KeepsToDirectories) {project : Project}
    {directory : Path} (member : child ∈ model.resources project directory) :
    ∃ name step isDirectory, name.components = [.normal step] ∧
      child = .resource project (directory.join name) isDirectory := by
  unfold resources at member
  split at member
  · next entries listed =>
    obtain ⟨entry, inside, rfl⟩ := List.mem_map.mp member
    obtain ⟨name, step, plain, path⟩ := keeps.members project directory entries listed entry inside
    exact ⟨name, step, entry.isDirectory, plain, by rw [path]⟩
  · cases member

/-- The children of an element are one step down from it. -/
theorem KeepsToDirectories.isOver_of_mem_children (keeps : model.KeepsToDirectories)
    (member : child ∈ model.children element) : element.IsOver child := by
  cases element with
  | project project =>
    simp only [children, keeps.firstChildren, List.nil_append] at member
    split at member
    · rcases List.mem_cons.mp member with rfl | member
      · exact .targets project
      · obtain ⟨name, step, isDirectory, plain, rfl⟩ := keeps.exists_join member
        exact .top project isDirectory plain
    · cases member
  | buildTargets project =>
    simp only [children] at member
    split at member
    · obtain ⟨target, _, rfl⟩ := List.mem_map.mp member
      exact .target project target.1 target.2
    · cases member
  | buildTarget owner name path => cases member
  | resource project path isDirectory =>
    cases isDirectory with
    | false => cases member
    | true =>
      obtain ⟨name, step, isDirectory, plain, rfl⟩ := keeps.exists_join member
      exact .inner project path isDirectory plain

theorem exists_project_of_mem_roots {roots : List Element} (listed : model.roots = .ok roots)
    (member : element ∈ roots) : ∃ project, element = .project project := by
  rw [Model.roots] at listed
  cases known : model.projects with
  | error failure =>
    rw [known] at listed
    cases listed
  | ok projects =>
    rw [known] at listed
    cases listed
    obtain ⟨project, _, rfl⟩ := List.mem_map.mp member
    exact ⟨project, rfl⟩

/-- Every element that is reached is inside its project. -/
theorem Leads.isInside (leads : model.Leads above element) (keeps : model.KeepsToDirectories) :
    element.IsInside := by
  induction leads with
  | root listed member =>
    obtain ⟨project, rfl⟩ := exists_project_of_mem_roots listed member
    trivial
  | child leads member inductionHypothesis =>
    exact (keeps.isOver_of_mem_children member).isInside inductionHypothesis

end Model

/-! ### Ways up -/

namespace Element

/-- The parent of a resource stands one component above it, and is the project where nothing is left
between the two. -/
theorem parent?_resource {owner : Project} {path : Path} {front : List Path.Component}
    {last : Path.Component} (isDirectory : Bool) (shape : path.components = front ++ [last])
    (notRoot : last ≠ .root) (start : owner.root.components <+: front) :
    ∃ above, above.components = front ∧
      (resource owner path isDirectory).parent? =
        some (if above.Same owner.root then .project owner else .resource owner above true) := by
  obtain ⟨above, parent, components⟩ := Path.exists_parent shape notRoot
  refine ⟨above, components, ?_⟩
  have starts : path.startsWith owner.root = true := by
    rw [Path.startsWith, List.isPrefixOf_iff_prefix, shape]
    exact start.trans (List.prefix_append _ _)
  have deeper : ¬ path.Same owner.root := by
    intro same
    have lengths := start.length_le
    rw [← same, shape, List.length_append, List.length_singleton] at lengths
    omega
  rw [parent?, if_pos ⟨starts, deeper⟩, parent]
  rfl

/-- Whatever is the same as an element one step down has the element above as its parent. -/
theorem IsOver.exists_parent (isOver : element.IsOver child) (isInside : element.IsInside)
    (same : other.Same child) : ∃ parent, other.parent? = some parent ∧ parent.Same element := by
  cases isOver with
  | targets owner =>
    cases other with
    | buildTargets otherOwner => exact ⟨_, rfl, same⟩
    | _ => cases same
  | target owner name path =>
    cases other with
    | buildTarget otherOwner _ _ => exact ⟨_, rfl, same.1⟩
    | _ => cases same
  | top owner isDirectory plain =>
    cases other with
    | resource otherOwner path _ =>
      obtain ⟨owners, paths, _⟩ := same
      have shape := paths.trans (Path.components_join owner.root plain)
      rw [← owners.2] at shape
      obtain ⟨above, components, parent⟩ := parent?_resource _ shape nofun (List.prefix_refl _)
      have atRoot : above.Same otherOwner.root := components
      rw [if_pos atRoot] at parent
      exact ⟨_, parent, owners⟩
    | _ => cases same
  | inner owner directory isDirectory plain =>
    cases other with
    | resource otherOwner path _ =>
      obtain ⟨owners, paths, _⟩ := same
      obtain ⟨first, rest, inside⟩ := isInside
      have shape := paths.trans (Path.components_join directory plain)
      have start : otherOwner.root.components <+: directory.components := by
        rw [owners.2, inside]
        exact List.prefix_append _ _
      obtain ⟨above, components, parent⟩ := parent?_resource _ shape nofun start
      have between : ¬ above.Same otherOwner.root := by
        intro atRoot
        have lengths := congrArg List.length (components.symm.trans atRoot)
        rw [inside, owners.2, List.length_append, List.length_cons] at lengths
        omega
      rw [if_neg between] at parent
      exact ⟨_, parent, owners, components, rfl⟩
    | _ => cases same

end Element

namespace Model

/-- Going up from an element passes the elements that led to it, up to how their paths are
spelled. -/
theorem Leads.ancestors (leads : model.Leads above element) (keeps : model.KeepsToDirectories)
    (same : other.Same element) {limit : Nat} (enough : above.length ≤ limit) :
    List.Forall₂ Element.Same (other.ancestors limit) above := by
  induction leads generalizing other limit with
  | root listed member =>
    obtain ⟨project, rfl⟩ := exists_project_of_mem_roots listed member
    cases other with
    | project otherProject => cases limit <;> exact .nil
    | _ => cases same
  | child leads member inductionHypothesis =>
    obtain ⟨parent, is, sameParent⟩ :=
      (keeps.isOver_of_mem_children member).exists_parent (leads.isInside keeps) same
    cases limit with
    | zero => cases enough
    | succ limit =>
      rw [Element.ancestors, is]
      exact .cons sameParent (inductionHypothesis sameParent (Nat.le_of_succ_le_succ enough))

theorem Leads.exists_project (leads : model.Leads above element) :
    ∃ project, (element :: above).getLast? = some (.project project) := by
  induction leads with
  | root listed member =>
    obtain ⟨project, rfl⟩ := exists_project_of_mem_roots listed member
    exact ⟨project, rfl⟩
  | child leads member inductionHypothesis =>
    obtain ⟨project, last⟩ := inductionHypothesis
    exact ⟨project, by rw [List.getLast?_cons_cons, last]⟩

end Model

/-- The listings of a workspace on disk keep to directories. -/
theorem Workspace.keepsToDirectories {tree : FileTree} (isWellFormed : tree.IsWellFormed)
    (start : FileTree.Place) (root : Path) :
    (Workspace.model tree start root).KeepsToDirectories where
  members project directory entries listed entry member := by
    cases shown : list tree start directory with
    | error failure =>
      simp [Workspace.model, shown, Except.map] at listed
    | ok listing =>
      obtain ⟨raw, read⟩ := exists_readDirectory_of_list shown
      simp only [Workspace.model, list_of_readDirectory read, Except.map, List.map_map,
        Except.ok.injEq] at listed
      rw [← listed, List.mem_map] at member
      obtain ⟨_, arranged, rfl⟩ := member
      obtain ⟨⟨name, found⟩, inside, _, rfl⟩ := mem_arrange_iff.mp arranged
      have isName := ((isWellFormed.readDirectory read .plain).of_mem inside).1
      exact ⟨⟨name⟩, name, isName.components_eq, rfl⟩
  firstChildren project := rfl

/-- Going up undoes going down.

Take any model whose listings keep to directories, and any element that is reached from a root. Every
child of the element has the element as its parent, and going up from the element passes exactly the
elements that led to it, ends at a project, and goes no further. Elements count as the same whatever
the spelling of their paths, and the roots of the projects may be spelled in any way.

A workspace on disk is such a model, whatever its files are. -/
theorem parent_inverts_children :
    (∀ model : Model, model.KeepsToDirectories → ∀ above element, model.Leads above element →
      (∀ child ∈ model.children element,
        ∃ parent, child.parent? = some parent ∧ parent.Same element) ∧
      (∀ limit, above.length ≤ limit →
        List.Forall₂ Element.Same (element.ancestors limit) above) ∧
      ∃ project, (element :: above).getLast? = some (.project project) ∧
        (Element.project project).parent? = none) ∧
    ∀ (tree : FileTree) (start : FileTree.Place) (root : Path), tree.IsWellFormed →
      (Workspace.model tree start root).KeepsToDirectories := by
  constructor
  · intro model keeps above element leads
    refine ⟨fun child member => ?_, fun limit enough => ?_, ?_⟩
    · exact (keeps.isOver_of_mem_children member).exists_parent (leads.isInside keeps)
        child.same_refl
    · exact leads.ancestors keeps element.same_refl enough
    · obtain ⟨project, last⟩ := leads.exists_project
      exact ⟨project, last, rfl⟩
  · intro tree start root isWellFormed
    exact Workspace.keepsToDirectories isWellFormed start root

/-- The root of the project has a dot, two slashes and two dots in it, and its directories contain
each other without end. The files of the workspace on disk are a link to itself. -/
theorem parent_inverts_children_below_odd_root :
    let project : Project := ⟨"odd", ⟨".//ws/../"⟩⟩
    let model : Model := ⟨.ok [project], fun _ => true,
      fun _ directory => .ok [⟨directory.join ⟨"a"⟩, true⟩], fun _ => .ok [], fun _ => []⟩
    let directory : Element := .resource project ⟨".//ws/../a"⟩ true
    let child : Element := .resource project ⟨".//ws/../a/a"⟩ true
    let tree : FileTree := .directory .executable [("loop", .link ⟨"loop"⟩)]
    model.KeepsToDirectories ∧ model.Leads [.project project] directory ∧
    child ∈ model.children directory ∧ tree.IsWellFormed ∧
    (∃ parent, child.parent? = some parent ∧ parent.Same directory) ∧
    List.Forall₂ Element.Same (directory.ancestors 64) [.project project] ∧
    (Workspace.model tree [] ⟨"."⟩).KeepsToDirectories := by
  intro project model directory child tree
  have keeps : model.KeepsToDirectories := by
    refine ⟨?_, fun _ => rfl⟩
    intro _ asked entries listed entry member
    cases listed
    obtain rfl := List.mem_singleton.mp member
    exact ⟨⟨"a"⟩, "a", by decide, rfl⟩
  have leads : model.Leads [.project project] directory :=
    .child (.root rfl List.mem_cons_self) (by decide)
  have member : child ∈ model.children directory := by decide
  have isWellFormed : tree.IsWellFormed :=
    ⟨by simp, ⟨by decide, by decide, by decide, by decide⟩, trivial, trivial⟩
  obtain ⟨inverts, ends, _⟩ := parent_inverts_children.1 model keeps _ directory leads
  exact ⟨keeps, leads, member, isWellFormed, inverts child member, ends 64 (by decide),
    parent_inverts_children.2 tree [] ⟨"."⟩ isWellFormed⟩

end CodeNavigator
