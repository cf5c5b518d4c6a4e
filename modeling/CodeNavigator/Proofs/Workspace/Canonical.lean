/-
This file proves that listings of directories are canonical. Whatever the order in which a directory
enumerates its entries, the listing is the same: the entries that are not hidden, each once,
directories first, and each of the two groups in the order of the bytes of the names. The listing is
made by comparing names, which comes to the same as comparing whole paths component by component,
since all paths of a listing differ in their last component only.

The projects, the members of directories, the build targets and the whole tree of a workspace are
made from listings, so they are canonical too.
-/

import CodeNavigator.Proofs.FileTree.Reordering
import CodeNavigator.Proofs.Text.Utf8
import CodeNavigator.Proofs.Workspace.Completeness

namespace CodeNavigator

open Text.Utf8 (encode encode_inj encode_lt_encode_iff)

/-! ### Orders -/

/-- In a strict order nothing stands twice. -/
theorem nodup_of_pairwise {Item : Type} {before : Item → Item → Prop} {items : List Item}
    (strict : ∀ item, ¬ before item item) (ordered : items.Pairwise before) : items.Nodup := by
  refine ordered.imp ?_
  rintro left _ less rfl
  exact strict left less

namespace Path

/-- Where the kinds of components stand in the order. -/
def Component.rank : Component → Nat
  | .root => 0
  | .current => 1
  | .parent => 2
  | .normal _ => 3

/-- The bytes of a name. -/
def Component.bytes : Component → List UInt8
  | .normal name => encode name
  | _ => []

instance : Ord Component :=
  ⟨fun left right =>
    (compare left.rank right.rank).then (compareOfLessAndEq left.bytes right.bytes)⟩

theorem compare_append (front : List Component) (left right : List Component) :
    compare (front ++ left) (front ++ right) = compare left right := by
  induction front with
  | nil => rfl
  | cons first rest inductionHypothesis =>
    have same : compare first first = .eq := by
      cases first <;> simp [compare, compareOfLessAndEq]
    rw [List.cons_append, List.cons_append, List.compare_cons_cons, same, inductionHypothesis]
    rfl

end Path

/-- How entries are compared: directories first, then by their paths, component by component. -/
def Entry.compare (left right : Entry) : Ordering :=
  (Ord.compare right.isDirectory left.isDirectory).then
    (Ord.compare left.path.components right.path.components)

theorem Entry.compare_self (entry : Entry) : entry.compare entry = .eq := by
  have same := Path.compare_append entry.path.components [] []
  rw [List.append_nil] at same
  rw [Entry.compare, same]
  cases entry.isDirectory <;> rfl

namespace Workspace

/-- One entry stands before another: a directory before all else, and otherwise by the bytes of the
names. -/
def Listed.StandsBefore (left right : Listed) : Prop :=
  left.isDirectory = true ∧ right.isDirectory = false ∨
    left.isDirectory = right.isDirectory ∧ encode left.name < encode right.name

/-- An entry below the path of its directory. -/
def Listed.entry (directory : Path) (listed : Listed) : Entry :=
  ⟨directory.join ⟨listed.name⟩, listed.isDirectory⟩

/-- The entries of a directory that are not hidden, as it enumerates them. -/
def visible (entries : List (String × FileTree)) : List Listed :=
  (entries.filter fun entry => !isHidden entry.1).map fun entry =>
    ⟨entry.1, entry.2.isDirectory⟩

theorem isLE_compareOfLessAndEq_encode (left right : String) :
    (compareOfLessAndEq (encode left) (encode right)).isLE = true ↔ left ≤ right := by
  simp only [compareOfLessAndEq, encode_lt_encode_iff, encode_inj]
  split
  · next less => exact iff_of_true rfl (String.not_lt.mp (String.lt_asymm less))
  · next notLess =>
    split
    · next same => exact iff_of_true rfl (same ▸ String.le_refl _)
    · next different =>
      refine iff_of_false (by decide) fun least => different ?_
      exact String.le_antisymm least (String.not_lt.mp notLess)

/-- To compare entries of one directory is to compare their names. -/
theorem compare_entry (directory : Path) {left right : Listed}
    (isName : FileTree.IsName left.name) (otherIsName : FileTree.IsName right.name) :
    (left.entry directory).compare (right.entry directory) =
      (compare right.isDirectory left.isDirectory).then
        (compareOfLessAndEq (encode left.name) (encode right.name)) := by
  rw [Entry.compare, Listed.entry, Listed.entry, Path.components_join _ isName.components_eq,
    Path.components_join _ otherIsName.components_eq, Path.compare_append, List.compare_cons_cons]
  refine congrArg _ ?_
  show (compareOfLessAndEq (encode left.name) (encode right.name)).then .eq = _
  exact Ordering.then_eq

theorem precedes_iff {left right : Listed} :
    left.precedes right = true ↔
      left.isDirectory = true ∧ right.isDirectory = false ∨
        left.isDirectory = right.isDirectory ∧ left.name ≤ right.name := by
  rw [Listed.precedes]
  cases left.isDirectory <;> cases right.isDirectory <;> simp

theorem precedes_eq_isLE_compare (directory : Path) {left right : Listed}
    (isName : FileTree.IsName left.name) (otherIsName : FileTree.IsName right.name) :
    left.precedes right = ((left.entry directory).compare (right.entry directory)).isLE := by
  have names := isLE_compareOfLessAndEq_encode left.name right.name
  rw [compare_entry directory isName otherIsName, Bool.eq_iff_iff, precedes_iff, ← names]
  cases left.isDirectory <;> cases right.isDirectory <;> simp [compare, Ordering.then]

theorem precedes_trans (first second third : Listed) (before : first.precedes second = true)
    (after : second.precedes third = true) : first.precedes third = true := by
  rw [precedes_iff] at before after ⊢
  rcases before with ⟨first, second⟩ | ⟨same, before⟩
  · rcases after with ⟨absurdly, _⟩ | ⟨same, _⟩
    · rw [second] at absurdly
      cases absurdly
    · exact Or.inl ⟨first, same ▸ second⟩
  · rcases after with ⟨second, third⟩ | ⟨sameAgain, after⟩
    · exact Or.inl ⟨same ▸ second, third⟩
    · exact Or.inr ⟨same.trans sameAgain, String.le_trans before after⟩

theorem precedes_total (left right : Listed) :
    (left.precedes right || right.precedes left) = true := by
  rw [Bool.or_eq_true, precedes_iff, precedes_iff]
  cases left.isDirectory <;> cases right.isDirectory <;> simp [String.le_total]

theorem precedes_antisymm {left right : Listed} (before : left.precedes right = true)
    (after : right.precedes left = true) : left = right := by
  have same : left.isDirectory = right.isDirectory ∧ left.name = right.name := by
    rw [precedes_iff] at before after
    rcases before with ⟨first, second⟩ | ⟨same, before⟩
    · rw [first, second] at after
      simp at after
    · rcases after with ⟨first, second⟩ | ⟨_, after⟩
      · rw [first, second] at same
        cases same
      · exact ⟨same, String.le_antisymm before after⟩
  cases left
  cases right
  obtain ⟨rfl, rfl⟩ := same
  rfl

/-- What precedes an entry of another name stands before it. -/
theorem standsBefore_of_precedes {left right : Listed} (precedes : left.precedes right = true)
    (different : left.name ≠ right.name) : left.StandsBefore right := by
  refine (precedes_iff.mp precedes).imp_right fun ⟨same, least⟩ => ⟨same, ?_⟩
  refine encode_lt_encode_iff.mpr (String.not_le.mp fun other => different ?_)
  exact String.le_antisymm least other

/-! ### Listings -/

variable {tree other : FileTree} {start : FileTree.Place} {root directory : Path}
  {entries others : List (String × FileTree)} {project : Project}

theorem pairwise_precedes_arrange (entries : List (String × FileTree)) :
    (arrange entries).Pairwise fun left right => left.precedes right = true :=
  List.pairwise_mergeSort precedes_trans precedes_total _

/-- The order in which a directory enumerates its entries does not count. -/
theorem arrange_eq_of_perm (perm : (visible entries).Perm (visible others)) :
    arrange entries = arrange others := by
  have same : (arrange entries).Perm (arrange others) :=
    (perm_arrange entries).trans (perm.trans (perm_arrange others).symm)
  exact same.eq_of_pairwise (fun _ _ _ _ => precedes_antisymm) (pairwise_precedes_arrange entries)
    (pairwise_precedes_arrange others)

theorem visible_eq (entries : List (String × FileTree)) :
    visible entries =
      ((entries.map fun entry => (entry.1, entry.2.isDirectory)).filter
        fun seen => !isHidden seen.1).map fun seen => ⟨seen.1, seen.2⟩ := by
  rw [visible, List.filter_map, List.map_map]
  rfl

theorem arrange_eq_of_sameNames (same : FileTree.SameNames entries others) :
    arrange entries = arrange others := by
  refine arrange_eq_of_perm ?_
  rw [visible_eq, visible_eq]
  exact (same.filter _).map _

/-- With different names, an arrangement is strictly ordered. -/
theorem pairwise_arrange (distinct : (entries.map Prod.fst).Nodup) :
    (arrange entries).Pairwise Listed.StandsBefore := by
  have names : ((arrange entries).map Listed.name).Nodup := by
    rw [((perm_arrange entries).map Listed.name).nodup_iff, List.map_map]
    exact distinct.sublist (List.filter_sublist.map _)
  have apart := List.pairwise_map.mp names
  exact ((pairwise_precedes_arrange entries).and apart).imp fun ⟨precedes, different⟩ =>
    standsBefore_of_precedes precedes different

/-- To arrange the entries of a directory is to sort them by their paths. -/
theorem arrange_map_entry (directory : Path)
    (names : ∀ entry ∈ entries, FileTree.IsName entry.1) :
    (arrange entries).map (Listed.entry directory) =
      ((visible entries).map (Listed.entry directory)).mergeSort
        fun left right => (left.compare right).isLE := by
  have isName (listed : Listed) (member : listed ∈ visible entries) :
      FileTree.IsName listed.name := by
    obtain ⟨entry, inside, rfl⟩ := List.mem_map.mp member
    exact names entry (List.mem_of_mem_filter inside)
  exact List.map_mergeSort fun left leftMember right rightMember =>
    precedes_eq_isLE_compare directory (isName left leftMember) (isName right rightMember)

/-- A list shows a directory: all its entries that are not hidden, strictly ordered. It is what
sorting the entries by their paths gives. -/
structure IsCanonical (directory : Path) (entries : List (String × FileTree))
    (shown : List Listed) : Prop where
  perm : shown.Perm (visible entries)
  ordered : shown.Pairwise Listed.StandsBefore
  sorted : shown.map (Listed.entry directory) =
    ((visible entries).map (Listed.entry directory)).mergeSort
      fun left right => (left.compare right).isLE

theorem isCanonical_arrange (isWellFormed : tree.IsWellFormed)
    (read : tree.readDirectory start directory = .ok entries) :
    IsCanonical directory entries (arrange entries) := by
  have inside := isWellFormed.readDirectory read .plain
  refine ⟨perm_arrange entries, pairwise_arrange inside.1, arrange_map_entry directory ?_⟩
  exact fun entry member => (inside.of_mem member).1

theorem list_eq (looksLike : tree.LooksLike other) (directory : Path) :
    list other start directory = list tree start directory := by
  rw [list, list]
  rcases looksLike.readDirectory_cases with ⟨error, read, otherRead⟩ | ⟨_, _, read, otherRead, same⟩
  · rw [read, otherRead]
  · rw [read, otherRead]
    simp only [arrange_eq_of_sameNames same]

theorem model_eq (looksLike : tree.LooksLike other) (root : Path) :
    model other start root = model tree start root := by
  have accessible (project : Project) : (other.readDirectory start project.root).toOption.isSome =
      (tree.readDirectory start project.root).toOption.isSome := by
    rcases looksLike.readDirectory_cases with ⟨_, read, otherRead⟩ | ⟨_, _, read, otherRead, _⟩
    · rw [read, otherRead]
    · rw [read, otherRead]
      rfl
  have targets : buildTargets other start = buildTargets tree start := funext fun project => by
    rw [buildTargets, buildTargets, looksLike.leadsToDirectory_eq, list_eq looksLike]
  simp only [model, list_eq looksLike, accessible, targets]

/-! ### What is made from listings -/

theorem pairwise_directories (distinct : (entries.map Prod.fst).Nodup) :
    ((arrange entries).filter Listed.isDirectory).Pairwise fun left right =>
      encode left.name < encode right.name := by
  refine ((pairwise_arrange distinct).filter _).imp_of_mem fun leftMember rightMember before => ?_
  have isDirectory := (List.mem_filter.mp rightMember).2
  rcases before with ⟨_, isFile⟩ | ⟨_, less⟩
  · rw [isDirectory] at isFile
    cases isFile
  · exact less

theorem pairwise_projects (isWellFormed : tree.IsWellFormed) {projects : List Project}
    (listed : (model tree start root).projects = .ok projects) :
    projects.Pairwise fun left right => encode left.name < encode right.name := by
  cases read : tree.readDirectory start root with
  | error error =>
    simp only [model, list, read] at listed
    cases listed
  | ok entries =>
    simp only [model, list_of_readDirectory read, Except.map, directories_map] at listed
    cases listed
    rw [List.pairwise_map, List.pairwise_map]
    exact pairwise_directories (isWellFormed.readDirectory read .plain).1

theorem pairwise_members (isWellFormed : tree.IsWellFormed) {members : List Entry}
    (listed : (model tree start root).members project directory = .ok members) :
    members.Pairwise fun left right => left.compare right = .lt := by
  cases read : tree.readDirectory start directory with
  | error error =>
    simp only [model, list, read] at listed
    cases listed
  | ok entries =>
    simp only [model, list_of_readDirectory read, Except.map, List.map_map] at listed
    cases listed
    have inside := isWellFormed.readDirectory read .plain
    rw [List.pairwise_map]
    have ordered := pairwise_arrange inside.1
    refine ordered.imp_of_mem fun {left right} leftMember rightMember before => ?_
    refine (compare_entry directory (isName_of_mem_arrange inside leftMember)
      (isName_of_mem_arrange inside rightMember)).trans ?_
    rcases before with ⟨isDirectory, isFile⟩ | ⟨same, less⟩
    · rw [isDirectory, isFile]
      rfl
    · rw [same, compareOfLessAndEq, if_pos less]
      cases right.isDirectory <;> rfl

theorem pairwise_buildTargets (isWellFormed : tree.IsWellFormed)
    {targets : List (String × Path)}
    (listed : (model tree start root).buildTargets project = .ok targets) :
    targets.Pairwise fun left right => encode left.1 < encode right.1 := by
  simp only [model, buildTargets] at listed
  split at listed
  · cases read : tree.readDirectory start (targetsDirectory project) with
    | error error =>
      simp only [list, read] at listed
      cases listed
    | ok entries =>
      simp only [list_of_readDirectory read, Except.map, directories_map] at listed
      cases listed
      rw [List.pairwise_map]
      exact pairwise_directories (isWellFormed.readDirectory read .plain).1
  · cases listed
    exact List.Pairwise.nil

end Workspace

/-! ### Nodes in order -/

namespace TreeNode

/-- One node stands before another: the build targets of a project before all else, a directory
before a file, and otherwise by the bytes of the labels. -/
def StandsBefore (left right : TreeNode) : Prop :=
  left.kind = ElementKind.buildTargets.name ∧ right.kind ≠ ElementKind.buildTargets.name ∨
    left.kind = ElementKind.directory.name ∧ right.kind = ElementKind.file.name ∨
      left.kind = right.kind ∧ encode left.label < encode right.label

/-- Some nodes are strictly ordered, and so no two of them are the same. -/
structure InOrder (nodes : List TreeNode) : Prop where
  distinct : nodes.Nodup
  ordered : nodes.Pairwise StandsBefore

theorem not_standsBefore_self (node : TreeNode) : ¬ node.StandsBefore node := by
  rintro (⟨same, differ⟩ | ⟨isDirectory, isFile⟩ | ⟨_, less⟩)
  · exact differ same
  · rw [isDirectory] at isFile
    exact absurd isFile (by decide)
  · exact List.lt_irrefl _ less

theorem inOrder_of_pairwise {nodes : List TreeNode} (ordered : nodes.Pairwise StandsBefore) :
    InOrder nodes :=
  ⟨nodup_of_pairwise not_standsBefore_self ordered, ordered⟩

/-- What stands below a node does not count for its place. -/
theorem standsBefore_cut_zero_iff {left right : TreeNode} :
    (left.cut 0).StandsBefore (right.cut 0) ↔ left.StandsBefore right := by
  cases left
  cases right
  rfl

end TreeNode

namespace Workspace

variable {tree : FileTree} {start : FileTree.Place} {root : Path} {project : Project} {path : Path}

theorem pairwise_resources (isWellFormed : tree.IsWellFormed) (root : Path) (project : Project)
    (path : Path) :
    ((model tree start root).resources project path).Pairwise fun left right =>
      ((model tree start root).unfold 0 left).StandsBefore
        ((model tree start root).unfold 0 right) := by
  by_cases readable : IsReadable tree start path
  · obtain ⟨entries, read⟩ := readable
    have inside := isWellFormed.readDirectory read .plain
    rw [resources_of_readDirectory read, List.pairwise_map]
    have ordered := pairwise_arrange inside.1
    refine ordered.imp_of_mem fun {left right} leftMember rightMember before => ?_
    have label {listed : Listed} (member : listed ∈ arrange entries) :
        ((model tree start root).unfold 0 (.resource project (path.join ⟨listed.name⟩)
          listed.isDirectory)).label = listed.name := by
      have isName := isName_of_mem_arrange inside member
      show (path.join ⟨listed.name⟩).fileName.getD _ = listed.name
      rw [Path.fileName_join path isName.components_eq]
      rfl
    refine Or.inr (before.imp (fun ⟨isDirectory, isFile⟩ => ?_) fun ⟨same, less⟩ => ⟨?_, ?_⟩)
    · rw [isDirectory, isFile]
      exact ⟨rfl, rfl⟩
    · rw [same]
      cases right.isDirectory <;> rfl
    · rw [label leftMember, label rightMember]
      exact less
  · rw [resources_of_not_isReadable readable]
    exact List.Pairwise.nil

/-- The children of every element are strictly ordered. -/
theorem pairwise_children (isWellFormed : tree.IsWellFormed) (root : Path) (element : Element) :
    ((model tree start root).children element).Pairwise fun left right =>
      ((model tree start root).unfold 0 left).StandsBefore
        ((model tree start root).unfold 0 right) := by
  cases element with
  | project project =>
    by_cases readable : IsReadable tree start project.root
    · rw [children_project readable]
      refine List.Pairwise.cons (fun other member => Or.inl ⟨rfl, ?_⟩)
        (pairwise_resources isWellFormed root project project.root)
      obtain ⟨entries, read⟩ := readable
      rw [resources_of_readDirectory read] at member
      obtain ⟨listed, _, rfl⟩ := List.mem_map.mp member
      have kinds : ElementKind.directory.name ≠ ElementKind.buildTargets.name ∧
          ElementKind.file.name ≠ ElementKind.buildTargets.name := by decide
      cases listed.isDirectory with
      | true => exact kinds.1
      | false => exact kinds.2
    · rw [children_project_of_not_isReadable readable]
      exact List.Pairwise.nil
  | buildTargets project =>
    simp only [Model.children]
    split
    · next targets listed =>
      rw [List.pairwise_map]
      exact (pairwise_buildTargets isWellFormed listed).imp fun less => Or.inr (Or.inr ⟨rfl, less⟩)
    · exact List.Pairwise.nil
  | buildTarget => exact List.Pairwise.nil
  | resource project path isDirectory =>
    cases isDirectory with
    | true => exact pairwise_resources isWellFormed root project path
    | false => exact List.Pairwise.nil

theorem inOrder_children (isWellFormed : tree.IsWellFormed) {node : TreeNode} {element : Element}
    (isNodeOf : (model tree start root).IsNodeOf node element) :
    TreeNode.InOrder node.children := by
  refine TreeNode.inOrder_of_pairwise ?_
  rcases isNodeOf.children with none | same
  · rw [none]
    exact List.Pairwise.nil
  · have ordered : ((model tree start root).children element).Pairwise _ :=
      pairwise_children isWellFormed root element
    rw [← List.pairwise_map, ← same, List.pairwise_map] at ordered
    exact ordered.imp TreeNode.standsBefore_cut_zero_iff.mp

theorem inOrder_projects (isWellFormed : tree.IsWellFormed) {roots : List Element}
    (listed : (model tree start root).roots = .ok roots) {nodes : List TreeNode}
    (each : List.Forall₂ (model tree start root).Unfolds roots nodes) : TreeNode.InOrder nodes := by
  refine TreeNode.inOrder_of_pairwise ?_
  rw [Model.roots] at listed
  cases found : (model tree start root).projects with
  | error failure =>
    rw [found] at listed
    cases listed
  | ok projects =>
    rw [found] at listed
    cases listed
    have ordered : (nodes.map (TreeNode.cut 0)).Pairwise TreeNode.StandsBefore := by
      rw [Model.map_cut_zero each, List.map_map, List.pairwise_map]
      exact (pairwise_projects isWellFormed found).imp fun less => Or.inr (Or.inr ⟨rfl, less⟩)
    rw [List.pairwise_map] at ordered
    exact ordered.imp TreeNode.standsBefore_cut_zero_iff.mp

end Workspace

open Workspace

/-- Listings of directories are canonical.

Take a disk and the same disk with directories that enumerate their entries in other orders. Every
listing is the same on both. It shows all entries of the directory that are not hidden, directories
first and then by the bytes of the names, just as sorting by paths gives them. The model of a
workspace is the same on both disks. Its projects, the members of every directory and the build
targets of every project are strictly ordered, and so are, in every tree that is made of it, the
projects and the children of every node. -/
theorem listings_are_canonical (engine : Engine) (tree other : FileTree) (start : FileTree.Place)
    (root : Path) (isWorkspace : engine.model = Workspace.model tree start root)
    (isWellFormed : tree.IsWellFormed) (reordered : tree.Reordered other) :
    (∀ directory, list other start directory = list tree start directory) ∧
    (∀ directory entries, tree.readDirectory start directory = .ok entries →
      ∃ shown, IsCanonical directory entries shown ∧
        list tree start directory =
          .ok (shown.map fun listed => (listed.name, listed.entry directory))) ∧
    engine.model = Workspace.model other start root ∧
    (∀ projects, engine.model.projects = .ok projects →
      projects.Nodup ∧ projects.Pairwise fun left right => encode left.name < encode right.name) ∧
    (∀ project directory members, engine.model.members project directory = .ok members →
      members.Nodup ∧ members.Pairwise fun left right => left.compare right = .lt) ∧
    (∀ project targets, engine.model.buildTargets project = .ok targets →
      targets.Nodup ∧ targets.Pairwise fun left right => encode left.1 < encode right.1) ∧
    ∀ depth shown, engine.tree depth = .ok shown →
      TreeNode.InOrder shown.projects ∧
        ∀ project ∈ shown.projects, ∀ node : TreeNode, node.IsIn project →
          TreeNode.InOrder node.children := by
  have looksLike := reordered.looksLike isWellFormed
  rw [isWorkspace]
  refine ⟨list_eq looksLike, fun directory entries read => ?_, (model_eq looksLike root).symm,
    fun projects listed => ?_, fun project directory members listed => ?_,
    fun project targets listed => ?_, fun depth shown made => ?_⟩
  · exact ⟨_, isCanonical_arrange isWellFormed read, list_of_readDirectory read⟩
  · have ordered := pairwise_projects isWellFormed listed
    exact ⟨nodup_of_pairwise (fun _ => List.lt_irrefl _) ordered, ordered⟩
  · have ordered := pairwise_members isWellFormed listed
    refine ⟨nodup_of_pairwise (fun entry less => ?_) ordered, ordered⟩
    rw [entry.compare_self] at less
    cases less
  · have ordered := pairwise_buildTargets isWellFormed listed
    exact ⟨nodup_of_pairwise (fun _ => List.lt_irrefl _) ordered, ordered⟩
  · refine ⟨?_, fun project member node isIn => ?_⟩
    · rcases Engine.exists_roots_of_tree made with bare | ⟨roots, listed, each⟩
      · rw [bare]
        exact TreeNode.inOrder_of_pairwise .nil
      · rw [isWorkspace] at listed each
        exact inOrder_projects isWellFormed listed (each.imp fun _ _ => Model.unfolds_of_unfoldTo?)
    · obtain ⟨_, isNodeOf⟩ := Engine.exists_isNodeOf_of_tree made member isIn
      exact inOrder_children isWellFormed (isWorkspace ▸ isNodeOf)

/-- Both the root and a project enumerate their entries in two orders. -/
theorem listings_are_canonical_of_two_orders :
    let entries (inside : List (String × FileTree)) : List (String × FileTree) :=
      [("b", .directory .executable inside), (".git", .directory .executable []),
        ("a", .directory .executable []), ("README", .link ⟨"b/x"⟩)]
    let inside : List (String × FileTree) := [("y", .file .plain []), ("x", .directory .plain [])]
    let tree : FileTree := .directory .executable (entries inside)
    let other : FileTree := .directory .executable (entries inside.reverse).reverse
    let engine : Engine := ⟨.standard, fun _ => .broken, Workspace.model tree [] ⟨"/"⟩⟩
    tree.IsWellFormed ∧ tree.Reordered other ∧
    list other [] ⟨"/"⟩ = list tree [] ⟨"/"⟩ ∧ engine.model = Workspace.model other [] ⟨"/"⟩ ∧
    (∃ shown, IsCanonical ⟨"/"⟩ (entries inside) shown ∧
      list tree [] ⟨"/"⟩ = .ok (shown.map fun listed => (listed.name, listed.entry ⟨"/"⟩))) ∧
    ∃ shown, engine.tree (some 2) = .ok shown ∧ TreeNode.InOrder shown.projects ∧
      ∀ project ∈ shown.projects, TreeNode.InOrder project.children := by
  intro entries inside tree other engine
  have isWellFormed : tree.IsWellFormed := by
    have bare (mode : Mode) : (FileTree.directory mode []).IsWellFormed := ⟨List.nodup_nil, trivial⟩
    exact ⟨by decide, by decide, ⟨by decide, by decide, trivial, by decide, bare _, trivial⟩,
      by decide, bare _, by decide, bare _, by decide, trivial, trivial⟩
  have reordered : tree.Reordered other :=
    .trans (.inside .executable [] "b" _ (.entries _ (List.reverse_perm inside).symm))
      (.entries _ (List.reverse_perm (entries inside.reverse)).symm)
  have located : tree.locate [] ⟨"/"⟩ = .ok [] :=
    FileTree.locate_eq_ok_iff.mpr ⟨by decide, by decide, by decide, rfl⟩
  have read : tree.readDirectory [] ⟨"/"⟩ = .ok (entries inside) :=
    FileTree.readDirectory_eq_ok_iff.mpr ⟨_, _, located, rfl, rfl⟩
  obtain ⟨same, canonical, sameModel, _, _, _, inOrder⟩ :=
    listings_are_canonical engine tree other [] ⟨"/"⟩ rfl isWellFormed reordered
  have made := engine.tree_of_roots (roots_of_readDirectory read) 2
  obtain ⟨projects, below⟩ := inOrder _ _ made
  exact ⟨isWellFormed, reordered, same _, sameModel, canonical _ _ read, _, made, projects,
    fun project member => below project member project (.self project)⟩

end CodeNavigator
