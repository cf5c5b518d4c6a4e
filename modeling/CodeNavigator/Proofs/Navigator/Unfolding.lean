/-
This file proves that trees of different depths are cuts of one and the same tree. The children of the
children of an element, level by level, form an outline of elements, and a tree that is limited to a
depth draws this outline to that depth. It does not matter that the elements that cannot be opened are
not asked for their children, since they have none.

Unfolding without a limit comes to an end exactly where there is no way down without end. The tree is
then cut at every depth to the tree that is limited to it, and a limit that is not below its height
changes nothing.
-/

import CodeNavigator.Engine
import Mathlib.Data.List.Forall2

namespace CodeNavigator

/-! ### Outlines -/

/-- An element with those below it. -/
inductive Outline
  | element (self : Element) (below : List Outline)

namespace Model

/-- The children of an element, with their children, to so many levels. -/
def outline (model : Model) : Nat → Element → Outline
  | 0, element => .element element []
  | depth + 1, element => .element element ((model.children element).map (model.outline depth))

mutual

/-- An outline as it is shown: the same for an element on every level. -/
def draw (model : Model) : Outline → TreeNode
  | .element self below => model.node self (model.drawAll below)

def drawAll (model : Model) : List Outline → List TreeNode
  | [] => []
  | first :: rest => model.draw first :: model.drawAll rest

end

theorem drawAll_eq (model : Model) (outlines : List Outline) :
    model.drawAll outlines = outlines.map model.draw := by
  induction outlines with
  | nil => rfl
  | cons first rest inductionHypothesis => rw [drawAll, inductionHypothesis, List.map_cons]

/-- What is shown of an element: its label, its kind, its path, whether it can be opened, and what is
below it in the outline. -/
theorem draw_element (model : Model) (element : Element) (below : List Outline) :
    model.draw (.element element below) =
      .node element.label element.kind.name (element.path?.map Path.text)
        (model.hasChildren element) (below.map model.draw) := by
  rw [draw, drawAll_eq, node]

end Model

/-! ### Nodes -/

namespace TreeNode

def label : TreeNode → String
  | .node label _ _ _ _ => label

def kind : TreeNode → String
  | .node _ kind _ _ _ => kind

def path : TreeNode → Option String
  | .node _ _ path _ _ => path

def hasChildren : TreeNode → Bool
  | .node _ _ _ hasChildren _ => hasChildren

def children : TreeNode → List TreeNode
  | .node _ _ _ _ children => children

/-- A node without all that is more than so many levels below it. -/
def cut : Nat → TreeNode → TreeNode
  | 0, .node label kind path hasChildren _ => .node label kind path hasChildren []
  | depth + 1, .node label kind path hasChildren children =>
    .node label kind path hasChildren (children.map (cut depth))

mutual

/-- How many levels there are below a node. -/
def height : TreeNode → Nat
  | .node _ _ _ _ children => levels children

/-- How many levels some nodes and those below them make up. -/
def levels : List TreeNode → Nat
  | [] => 0
  | first :: rest => max (first.height + 1) (levels rest)

end

/-- A node stands somewhere in the tree below another, or is this other. -/
inductive IsIn : TreeNode → TreeNode → Prop
  | self (node : TreeNode) : IsIn node node
  | deeper {node child whole : TreeNode} (member : child ∈ whole.children)
    (isIn : IsIn node child) : IsIn node whole

theorem levels_le_iff {nodes : List TreeNode} {depth : Nat} :
    levels nodes ≤ depth ↔ ∀ node ∈ nodes, node.height + 1 ≤ depth := by
  induction nodes with
  | nil => simp [levels]
  | cons first rest inductionHypothesis =>
    rw [levels, Nat.max_le, inductionHypothesis, List.forall_mem_cons]

/-- A cut below all levels changes nothing. -/
theorem cut_of_height_le {node : TreeNode} {depth : Nat} (low : node.height ≤ depth) :
    node.cut depth = node := by
  induction depth generalizing node with
  | zero =>
    obtain ⟨label, kind, path, hasChildren, children⟩ := node
    cases children with
    | nil => rfl
    | cons first rest =>
      have shorter := levels_le_iff.mp low first List.mem_cons_self
      omega
  | succ depth inductionHypothesis =>
    obtain ⟨label, kind, path, hasChildren, children⟩ := node
    have same : children.map (cut depth) = children := by
      refine (List.map_congr_left fun child member => ?_).trans children.map_id
      have shorter := levels_le_iff.mp low child member
      exact inductionHypothesis (by omega)
    rw [cut, same]

end TreeNode

namespace Tree

/-- A tree without all that is more than so many levels below its projects. -/
def cut (depth : Nat) (tree : Tree) : Tree :=
  { tree with projects := tree.projects.map (TreeNode.cut depth) }

/-- How many levels there are below the projects. -/
def height (tree : Tree) : Nat :=
  (tree.projects.map TreeNode.height).foldr max 0

theorem height_le_iff {tree : Tree} {depth : Nat} :
    tree.height ≤ depth ↔ ∀ project ∈ tree.projects, project.height ≤ depth := by
  unfold height
  induction tree.projects with
  | nil => simp
  | cons first rest inductionHypothesis =>
    rw [List.map_cons, List.foldr_cons, Nat.max_le, inductionHypothesis, List.forall_mem_cons]

theorem cut_of_height_le {tree : Tree} {depth : Nat} (low : tree.height ≤ depth) :
    tree.cut depth = tree := by
  obtain ⟨workspaceRoot, projects⟩ := tree
  have same : projects.map (TreeNode.cut depth) = projects := by
    refine (List.map_congr_left fun project member => ?_).trans projects.map_id
    exact TreeNode.cut_of_height_le (height_le_iff.mp low project member)
  rw [cut, same]

end Tree

/-! ### Limited trees -/

namespace Model

variable {model : Model} {element : Element} {node : TreeNode} {depth : Nat}

/-- To leave out what cannot be opened leaves nothing out. -/
theorem unfold_succ (model : Model) (depth : Nat) (element : Element) :
    model.unfold (depth + 1) element =
      model.node element ((model.children element).map (model.unfold depth)) := by
  cases openable : model.hasChildren element with
  | true => rw [unfold, if_pos openable]
  | false =>
    rw [unfold, if_neg (by rw [openable]; exact Bool.false_ne_true),
      children_of_hasChildren openable, List.map_nil]

/-- A limited tree is the outline to that depth. -/
theorem unfold_eq_draw (model : Model) (depth : Nat) (element : Element) :
    model.unfold depth element = model.draw (model.outline depth element) := by
  induction depth generalizing element with
  | zero => rfl
  | succ depth inductionHypothesis =>
    rw [unfold_succ, outline, draw_element, List.map_map]
    exact congrArg _ (List.map_congr_left fun child _ => inductionHypothesis child)

theorem cut_unfold {shallow deep : Nat} (le : shallow ≤ deep) :
    (model.unfold deep element).cut shallow = model.unfold shallow element := by
  induction shallow generalizing deep element with
  | zero => cases deep <;> rfl
  | succ shallow inductionHypothesis =>
    cases deep with
    | zero => cases le
    | succ deep =>
      rw [unfold_succ, unfold_succ, node, TreeNode.cut, List.map_map]
      refine congrArg _ (List.map_congr_left fun child _ => ?_)
      exact inductionHypothesis (Nat.le_of_succ_le_succ le)

/-! ### Trees without a limit -/

theorem mapM_eq_some_iff {Item Result : Type} {make : Item → Option Result} {items : List Item}
    {results : List Result} :
    items.mapM make = some results ↔
      List.Forall₂ (fun item result => make item = some result) items results := by
  induction items generalizing results with
  | nil => simp [eq_comm]
  | cons first rest inductionHypothesis =>
    rw [List.mapM_cons]
    constructor
    · intro made
      obtain ⟨head, first, made⟩ := Option.bind_eq_some_iff.mp made
      obtain ⟨tail, rest, made⟩ := Option.bind_eq_some_iff.mp made
      cases made
      exact .cons first (inductionHypothesis.mp rest)
    · rintro (_ | ⟨first, rest⟩)
      refine Option.bind_eq_some_iff.mpr ⟨_, first, ?_⟩
      exact Option.bind_eq_some_iff.mpr ⟨_, inductionHypothesis.mpr rest, rfl⟩

theorem exists_of_forall₂ {Item Result : Type} {relation : Item → Result → Prop}
    {items : List Item} {results : List Result} {item : Item}
    (each : List.Forall₂ relation items results) (member : item ∈ items) :
    ∃ result ∈ results, relation item result := by
  induction each with
  | nil => cases member
  | cons first _ inductionHypothesis =>
    rcases List.mem_cons.mp member with rfl | member
    · exact ⟨_, List.mem_cons_self, first⟩
    · obtain ⟨result, member, related⟩ := inductionHypothesis member
      exact ⟨result, List.mem_cons_of_mem _ member, related⟩

theorem Ends.child {child : Element} (ends : model.Ends element)
    (member : child ∈ model.children element) : model.Ends child := by
  cases ends with
  | intro below => exact below child member

theorem Ends.acc (ends : model.Ends element) : Acc model.IsChild element := by
  induction ends with
  | intro _ inductionHypothesis => exact .intro _ inductionHypothesis

/-- Where no way down is without end, unfolding takes its step. -/
theorem Ends.whole?_eq (ends : model.Ends element) :
    model.whole? element = model.overChildren element fun child _ => model.whole? child :=
  WellFounded.partialExtrinsicFix_eq_apply_of_acc ends.acc

theorem map_gather (model : Model) (elements : List Element) :
    (model.gather elements fun element _ => model.whole? element).map Subtype.val =
      elements.mapM model.unfoldAll := by
  induction elements with
  | nil => rfl
  | cons first rest inductionHypothesis =>
    rw [List.mapM_cons, ← inductionHypothesis, gather, unfoldAll]
    cases model.whole? first with
    | none => rfl
    | some whole =>
      cases model.gather rest fun element _ => model.whole? element with
      | none => rfl
      | some others => rfl

/-- To leave out what cannot be opened leaves nothing out here either. -/
theorem Ends.unfoldAll_eq (ends : model.Ends element) :
    model.unfoldAll element =
      ((model.children element).mapM model.unfoldAll).map (model.node element) := by
  rw [unfoldAll, ends.whole?_eq, overChildren, ← map_gather]
  split
  · rw [Option.map_map, Option.map_map]
    rfl
  · next closed =>
    rw [children_of_hasChildren (Bool.eq_false_iff.mpr closed)]
    rfl

/-- Unfolding without a limit comes to an end only where no way down is without end. -/
theorem ends_of_unfoldAll (made : model.unfoldAll element = some node) : model.Ends element := by
  obtain ⟨whole, _, _⟩ := Option.map_eq_some_iff.mp made
  exact whole.ends

/-- The node of an element stands over the nodes of its children. -/
theorem unfoldAll_eq_some_iff :
    model.unfoldAll element = some node ↔ ∃ below, node = model.node element below ∧
      List.Forall₂ (fun child node => model.unfoldAll child = some node)
        (model.children element) below := by
  constructor
  · intro made
    rw [(ends_of_unfoldAll made).unfoldAll_eq] at made
    obtain ⟨below, each, rfl⟩ := Option.map_eq_some_iff.mp made
    exact ⟨below, rfl, mapM_eq_some_iff.mp each⟩
  · rintro ⟨below, rfl, each⟩
    have ends : model.Ends element := .intro fun child member => by
      obtain ⟨_, _, made⟩ := exists_of_forall₂ each member
      exact ends_of_unfoldAll made
    rw [ends.unfoldAll_eq, mapM_eq_some_iff.mpr each]
    rfl

/-- The node of an element with all levels below it. An element whose levels never end stands there
alone. -/
def fullNode (model : Model) (element : Element) : TreeNode :=
  (model.unfoldAll element).getD (model.node element [])

theorem fullNode_eq (made : model.unfoldAll element = some node) : model.fullNode element = node := by
  rw [fullNode, made, Option.getD_some]

theorem forall₂_fullNode {elements : List Element}
    (each : ∀ element ∈ elements, ∃ node, model.unfoldAll element = some node) :
    List.Forall₂ (fun element node => model.unfoldAll element = some node) elements
      (elements.map model.fullNode) := by
  rw [List.forall₂_map_right_iff, List.forall₂_same]
  intro element member
  obtain ⟨node, made⟩ := each element member
  rw [made, fullNode_eq made]

/-- Where no way down is without end, unfolding without a limit comes to an end. -/
theorem Ends.exists_unfoldAll (ends : model.Ends element) :
    ∃ node, model.unfoldAll element = some node := by
  induction ends with
  | intro _ inductionHypothesis =>
    exact ⟨_, unfoldAll_eq_some_iff.mpr ⟨_, rfl, forall₂_fullNode inductionHypothesis⟩⟩

/-- There, the node of an element stands over the nodes of its children. -/
theorem Ends.fullNode_eq (ends : model.Ends element) :
    model.fullNode element = model.node element ((model.children element).map model.fullNode) := by
  have each := forall₂_fullNode fun child member => (ends.child member).exists_unfoldAll
  exact Model.fullNode_eq (unfoldAll_eq_some_iff.mpr ⟨_, rfl, each⟩)

/-- A tree without a limit is cut to the limited trees. -/
theorem cut_of_unfoldAll (whole : model.unfoldAll element = some node) :
    node.cut depth = model.unfold depth element := by
  induction depth generalizing element node with
  | zero =>
    obtain ⟨below, rfl, _⟩ := unfoldAll_eq_some_iff.mp whole
    rfl
  | succ depth inductionHypothesis =>
    obtain ⟨below, rfl, each⟩ := unfoldAll_eq_some_iff.mp whole
    have same : List.Forall₂ (· = ·) (below.map (TreeNode.cut depth))
        ((model.children element).map (model.unfold depth)) := by
      rw [List.forall₂_map_left_iff, List.forall₂_map_right_iff]
      exact each.flip.imp fun node child made => inductionHypothesis made
    rw [List.forall₂_eq_eq_eq] at same
    rw [unfold_succ, Model.node, TreeNode.cut, same]
    rfl

end Model

/-! ### Trees that come to an end -/

namespace Engine

variable {engine : Engine} {roots : List Element} {nodes : List TreeNode} {depth : Option Nat}

theorem tree?_of_nodes (listed : engine.model.roots = .ok roots)
    (each : List.Forall₂ (fun root node => engine.model.unfoldTo? depth root = some node) roots
      nodes) :
    engine.tree? depth = some (.ok ⟨engine.settings.workspaceRoot.text, nodes⟩) := by
  rw [tree?, Model.tree?, listed]
  simp only [Model.mapM_eq_some_iff.mpr each, Option.map_some]

theorem tree_of_tree? {result : Except Failure Tree} (made : engine.tree? depth = some result) :
    engine.tree depth = result := by
  rw [tree, Model.tree, ← tree?, made, Option.getD_some]

/-- A limited tree is unfolded from the projects that are listed. -/
theorem tree?_of_roots (listed : engine.model.roots = .ok roots) (depth : Nat) :
    engine.tree? (some depth) =
      some (.ok ⟨engine.settings.workspaceRoot.text, roots.map (engine.model.unfold depth)⟩) := by
  refine tree?_of_nodes listed ?_
  rw [List.forall₂_map_right_iff, List.forall₂_same]
  exact fun root _ => rfl

theorem tree_of_roots (engine : Engine) (listed : engine.model.roots = .ok roots) (depth : Nat) :
    engine.tree (some depth) =
      .ok ⟨engine.settings.workspaceRoot.text, roots.map (engine.model.unfold depth)⟩ :=
  tree_of_tree? (tree?_of_roots listed depth)

/-- So is a tree without a limit, if the levels end. -/
theorem tree?_of_ends (listed : engine.model.roots = .ok roots)
    (ends : ∀ root ∈ roots, engine.model.Ends root) :
    engine.tree? none =
      some (.ok ⟨engine.settings.workspaceRoot.text, roots.map engine.model.fullNode⟩) :=
  tree?_of_nodes listed (Model.forall₂_fullNode fun root member => (ends root member).exists_unfoldAll)

theorem tree?_of_error {failure : Failure} (failed : engine.model.roots = .error failure) :
    engine.tree? depth =
      some (.error (failure.during (.listingProjects engine.settings.workspaceRoot))) := by
  rw [tree?, Model.tree?, failed]

/-- A tree that was made without a failure shows the projects that are listed. -/
theorem exists_roots_of_tree? {shown : Tree} (made : engine.tree? depth = some (.ok shown)) :
    ∃ roots, engine.model.roots = .ok roots ∧
      List.Forall₂ (fun root node => engine.model.unfoldTo? depth root = some node) roots
        shown.projects := by
  cases listed : engine.model.roots with
  | error failure =>
    rw [tree?_of_error listed] at made
    cases made
  | ok roots =>
    rw [tree?, Model.tree?, listed] at made
    obtain ⟨nodes, each, same⟩ := Option.map_eq_some_iff.mp made
    cases same
    exact ⟨roots, rfl, Model.mapM_eq_some_iff.mp each⟩

/-- There is a tree just if the levels that are asked for come to an end. -/
theorem exists_tree?_iff :
    (∃ result, engine.tree? depth = some result) ↔ engine.model.Finishes depth := by
  constructor
  · rintro ⟨result, made⟩ rfl roots listed root member
    cases result with
    | error failure =>
      rw [tree?, Model.tree?, listed] at made
      obtain ⟨_, _, same⟩ := Option.map_eq_some_iff.mp made
      cases same
    | ok shown =>
      obtain ⟨_, same, each⟩ := exists_roots_of_tree? made
      cases listed.symm.trans same
      obtain ⟨_, _, made⟩ := Model.exists_of_forall₂ each member
      exact Model.ends_of_unfoldAll made
  · intro finishes
    cases listed : engine.model.roots with
    | error failure => exact ⟨_, tree?_of_error listed⟩
    | ok roots =>
      cases depth with
      | some depth => exact ⟨_, tree?_of_roots listed depth⟩
      | none => exact ⟨_, tree?_of_ends listed (finishes rfl roots listed)⟩

theorem tree?_of_finishes (finishes : engine.model.Finishes depth) :
    engine.tree? depth = some (engine.tree depth) := by
  obtain ⟨result, made⟩ := exists_tree?_iff.mpr finishes
  rw [made, tree_of_tree? made]

/-- Where the projects can be listed, a tree is made without a failure. -/
theorem exists_tree_of_roots (engine : Engine) (listed : engine.model.roots = .ok roots)
    (depth : Option Nat) : ∃ shown, engine.tree depth = .ok shown := by
  simp only [tree, Model.tree, Model.tree?, listed]
  cases roots.mapM (engine.model.unfoldTo? depth) with
  | none => exact ⟨_, rfl⟩
  | some nodes => exact ⟨_, rfl⟩

/-- A tree is unfolded from the projects that are listed, or bare. -/
theorem exists_roots_of_tree {shown : Tree} (made : engine.tree depth = .ok shown) :
    shown.projects = [] ∨ ∃ roots, engine.model.roots = .ok roots ∧
      List.Forall₂ (fun root node => engine.model.unfoldTo? depth root = some node) roots
        shown.projects := by
  cases ended : engine.tree? depth with
  | none =>
    rw [tree, Model.tree, ← tree?, ended] at made
    cases made
    exact Or.inl rfl
  | some result =>
    rw [tree_of_tree? ended] at made
    exact Or.inr (exists_roots_of_tree? (made ▸ ended))

end Engine

/-- What cannot be opened has nothing below it in a tree. -/
def Tree.KeepsClosed (tree : Tree) : Prop :=
  ∀ project ∈ tree.projects, ∀ node : TreeNode, node.IsIn project →
    node.hasChildren = false → node.children = []

theorem Model.children_of_isIn_unfold {model : Model} {node whole : TreeNode}
    (isIn : node.IsIn whole) {depth : Nat} {element : Element}
    (shown : whole = model.unfold depth element) (closed : node.hasChildren = false) :
    node.children = [] := by
  induction isIn generalizing depth element with
  | self =>
    cases depth with
    | zero => rw [shown]; rfl
    | succ depth =>
      rw [unfold_succ] at shown
      rw [shown] at closed ⊢
      have closed : model.hasChildren element = false := closed
      rw [children_of_hasChildren closed]
      rfl
  | deeper member _ inductionHypothesis =>
    cases depth with
    | zero =>
      rw [shown] at member
      cases member
    | succ depth =>
      rw [shown, unfold_succ] at member
      obtain ⟨child, _, same⟩ := List.mem_map.mp member
      exact inductionHypothesis same.symm

/-! ### Nodes and their elements -/

namespace Model

variable {model : Model} {element : Element} {node whole : TreeNode}

/-- A node is made for an element, and the nodes below it, if there are any, are made for the children
of the element. -/
structure IsNodeOf (model : Model) (node : TreeNode) (element : Element) : Prop where
  self : node.cut 0 = model.unfold 0 element
  children : node.children = [] ∨
    node.children.map (TreeNode.cut 0) = (model.children element).map (model.unfold 0)

/-- A node is unfolded from an element, to some depth or without a limit. -/
def Unfolds (model : Model) (element : Element) (node : TreeNode) : Prop :=
  (∃ depth, node = model.unfold depth element) ∨ model.unfoldAll element = some node

theorem unfolds_of_unfoldTo? {depth : Option Nat} (made : model.unfoldTo? depth element = some node) :
    model.Unfolds element node := by
  cases depth with
  | some depth => exact Or.inl ⟨depth, (Option.some.inj made).symm⟩
  | none => exact Or.inr made

theorem Unfolds.cut_zero (unfolds : model.Unfolds element node) :
    node.cut 0 = model.unfold 0 element := by
  rcases unfolds with ⟨depth, rfl⟩ | made
  · exact cut_unfold (Nat.zero_le depth)
  · exact cut_of_unfoldAll made

/-- The nodes below a node are unfolded from the children. -/
theorem Unfolds.children (unfolds : model.Unfolds element node) :
    node.children = [] ∨ List.Forall₂ model.Unfolds (model.children element) node.children := by
  rcases unfolds with ⟨depth, rfl⟩ | made
  · cases depth with
    | zero => exact Or.inl rfl
    | succ depth =>
      rw [unfold_succ]
      refine Or.inr (List.forall₂_map_right_iff.mpr (List.forall₂_same.mpr fun child _ => ?_))
      exact Or.inl ⟨depth, rfl⟩
  · obtain ⟨below, rfl, each⟩ := unfoldAll_eq_some_iff.mp made
    exact Or.inr (each.imp fun child node => Or.inr)

/-- What is unfolded from some elements shows at its top what the elements are. -/
theorem map_cut_zero {elements : List Element} {nodes : List TreeNode}
    (each : List.Forall₂ model.Unfolds elements nodes) :
    nodes.map (TreeNode.cut 0) = elements.map (model.unfold 0) := by
  rw [← List.forall₂_eq_eq_eq, List.forall₂_map_left_iff, List.forall₂_map_right_iff]
  exact each.flip.imp fun node child => Unfolds.cut_zero

theorem Unfolds.isNodeOf (unfolds : model.Unfolds element node) : model.IsNodeOf node element where
  self := unfolds.cut_zero
  children := unfolds.children.imp_right map_cut_zero

/-- Every node in a tree is made for some element. -/
theorem Unfolds.exists_isNodeOf (isIn : node.IsIn whole) (unfolds : model.Unfolds element whole) :
    ∃ element, model.IsNodeOf node element := by
  induction isIn generalizing element with
  | self => exact ⟨element, unfolds.isNodeOf⟩
  | deeper member _ inductionHypothesis =>
    rcases unfolds.children with none | each
    · rw [none] at member
      cases member
    · obtain ⟨child, _, unfoldsChild⟩ := exists_of_forall₂ each.flip member
      exact inductionHypothesis unfoldsChild

end Model

theorem Engine.exists_isNodeOf_of_tree {engine : Engine} {depth : Option Nat} {shown : Tree}
    (made : engine.tree depth = .ok shown) {project node : TreeNode}
    (member : project ∈ shown.projects) (isIn : node.IsIn project) :
    ∃ element, engine.model.IsNodeOf node element := by
  rcases Engine.exists_roots_of_tree made with bare | ⟨roots, _, each⟩
  · rw [bare] at member
    cases member
  · obtain ⟨element, _, made⟩ := Model.exists_of_forall₂ each.flip member
    exact (Model.unfolds_of_unfoldTo? made).exists_isNodeOf isIn

/-! ### Trees as cuts -/

/-- Trees of different depths are cuts of one tree.

To a depth, the tree is the outline of the children to that depth, drawn in the same way on every
level. A tree of smaller depth is cut from it. Where no way down is without end, and only there, a
tree without a limit is made; it is cut to every limited tree, and it is the limited tree if the limit
is not below its height. In none of them anything stands below a node that cannot be opened. -/
theorem tree_depths_are_cuts (engine : Engine) (roots : List Element)
    (listed : engine.model.roots = .ok roots) :
    (∀ depth, ∃ tree, engine.tree (some depth) = .ok tree ∧
      tree = ⟨engine.settings.workspaceRoot.text,
        roots.map fun root => engine.model.draw (engine.model.outline depth root)⟩ ∧
      tree.KeepsClosed) ∧
    (∀ shallow deep, shallow ≤ deep → ∀ tree, engine.tree (some deep) = .ok tree →
      engine.tree (some shallow) = .ok (tree.cut shallow)) ∧
    (∀ element, engine.model.Ends element ↔
      ∃ node, engine.model.unfoldAll element = some node) ∧
    ((∀ root ∈ roots, engine.model.Ends root) ↔ ∃ result, engine.tree? none = some result) ∧
    ((∀ root ∈ roots, engine.model.Ends root) →
      ∃ tree, engine.tree? none = some (.ok tree) ∧ engine.tree none = .ok tree ∧
        List.Forall₂ (fun root node => engine.model.unfoldAll root = some node) roots
          tree.projects ∧
        tree.KeepsClosed ∧
        (∀ depth, engine.tree (some depth) = .ok (tree.cut depth)) ∧
        ∀ depth, tree.height ≤ depth → engine.tree (some depth) = .ok tree) := by
  have limited := engine.tree_of_roots listed
  have keepsClosed (depth : Nat) (tree : Tree) (made : engine.tree (some depth) = .ok tree) :
      tree.KeepsClosed := by
    intro project member node isIn closed
    rw [limited depth] at made
    cases made
    obtain ⟨root, _, same⟩ := List.mem_map.mp member
    exact Model.children_of_isIn_unfold isIn same.symm closed
  refine ⟨fun depth => ?_, ?_, fun element => ?_, ?_, fun ends => ?_⟩
  · refine ⟨_, limited depth, ?_, keepsClosed depth _ (limited depth)⟩
    have same : engine.model.unfold depth =
        fun root => engine.model.draw (engine.model.outline depth root) :=
      funext (engine.model.unfold_eq_draw depth)
    rw [same]
  · intro shallow deep le tree made
    rw [limited deep] at made
    cases made
    rw [limited shallow, Tree.cut, List.map_map]
    have same : TreeNode.cut shallow ∘ engine.model.unfold deep = engine.model.unfold shallow :=
      funext fun root => Model.cut_unfold le
    rw [same]
  · exact ⟨Model.Ends.exists_unfoldAll, fun ⟨node, made⟩ => Model.ends_of_unfoldAll made⟩
  · rw [Engine.exists_tree?_iff]
    refine ⟨fun ends _ others same => ?_, fun finishes => finishes rfl roots listed⟩
    cases listed.symm.trans same
    exact ends
  · have each := Model.forall₂_fullNode fun root member => (ends root member).exists_unfoldAll
    have cuts (depth : Nat) : engine.tree (some depth) = .ok (Tree.cut depth
        ⟨engine.settings.workspaceRoot.text, roots.map engine.model.fullNode⟩) := by
      rw [limited depth, Tree.cut, List.map_map]
      refine congrArg _ (congrArg _ (List.map_congr_left fun root member => ?_))
      obtain ⟨node, made⟩ := (ends root member).exists_unfoldAll
      rw [Function.comp_apply, Model.fullNode_eq made, Model.cut_of_unfoldAll made]
    have whole (depth : Nat) (low : Tree.height
        ⟨engine.settings.workspaceRoot.text, roots.map engine.model.fullNode⟩ ≤ depth) :=
      (cuts depth).trans (congrArg _ (Tree.cut_of_height_le low))
    have made := Engine.tree?_of_ends listed ends
    exact ⟨_, made, Engine.tree_of_tree? made, each, keepsClosed _ _ (whole _ (Nat.le_refl _)),
      cuts, whole⟩

/-- A project with a file before its build targets, one build target, and a directory that cannot be
listed. In another workspace that directory holds itself. -/
theorem tree_depths_are_cuts_of_project :
    let project : Project := ⟨"p", ⟨"/p"⟩⟩
    let inside : Entry := ⟨⟨"/p/d"⟩, true⟩
    let model (below : Except Failure (List Entry)) : Model := ⟨.ok [project], fun _ => true,
      fun _ directory => if directory = ⟨"/p"⟩ then .ok [inside] else below,
      fun _ => .ok [("t", ⟨"/p/cmd/t"⟩)], fun _ => [.resource project ⟨"/q"⟩ false]⟩
    let engine : Engine := ⟨.standard, fun _ => .broken, model (.error (.of .invalidText))⟩
    let endless : Engine := { engine with model := model (.ok [inside]) }
    let whole : Tree := ⟨".", [.node "p" "project" (some "/p") true
      [.node "q" "file" (some "/q") false [],
        .node "Build Targets" "build_targets" none true
          [.node "t" "build_target" (some "/p/cmd/t") false []],
        .node "d" "directory" (some "/p/d") true []]]⟩
    engine.model.roots = .ok [.project project] ∧ engine.model.Ends (.project project) ∧
    engine.tree? none = some (.ok whole) ∧ whole.KeepsClosed ∧
    engine.tree (some 1) = .ok (whole.cut 1) ∧
    engine.tree (some 0) = .ok ⟨".", [.node "p" "project" (some "/p") true []]⟩ ∧
    engine.tree (some whole.height) = .ok whole ∧
    endless.tree? none = none ∧ ∃ shown, endless.tree (some 3) = .ok shown := by
  intro project inside model engine endless whole
  have roots : engine.model.roots = .ok [.project project] := rfl
  have listed : engine.model.children (.project project) =
      [.resource project ⟨"/q"⟩ false, .buildTargets project,
        .resource project ⟨"/p/d"⟩ true] := by
    simp [engine, model, inside, project, Model.children, Model.resources]
  have ends : engine.model.Ends (.project project) := by
    refine .intro fun child member => ?_
    rw [listed, List.mem_cons, List.mem_pair] at member
    rcases member with rfl | rfl | rfl
    · exact Model.ends_of_children_eq_nil rfl
    · refine .intro fun child member => ?_
      obtain rfl := List.mem_singleton.mp member
      exact Model.ends_of_children_eq_nil rfl
    · exact Model.ends_of_children_eq_nil rfl
  obtain ⟨_, shorter, _, _, unlimited⟩ := tree_depths_are_cuts engine [.project project] roots
  obtain ⟨tree, made, _, _, keepsClosed, cuts, limited⟩ := unlimited fun root member =>
    List.mem_singleton.mp member ▸ ends
  -- Three levels more than the tree has are enough for all of its nodes to be computed.
  have drawn (depth : Nat) : engine.tree (some (depth + 3)) = .ok whole := by
    rw [engine.tree_of_roots roots, List.map_singleton, Model.unfold_succ, listed]
    rfl
  obtain rfl : tree = whole :=
    Except.ok.inj ((limited _ (Nat.le_add_right _ 3)).symm.trans (drawn _))
  obtain ⟨first, _, _, onlyIf, _⟩ := tree_depths_are_cuts endless [.project project] rfl
  have neverEnds : ¬ endless.model.Ends (.resource project ⟨"/p/d"⟩ true) := by
    intro ends
    generalize same : Element.resource project ⟨"/p/d"⟩ true = directory at ends
    induction ends with
    | intro _ inductionHypothesis =>
      subst same
      exact inductionHypothesis _ (List.mem_singleton.mpr rfl) rfl
  have noTree : endless.tree? none = none := by
    refine Option.eq_none_iff_forall_ne_some.mpr fun result made => neverEnds ?_
    refine (onlyIf.mpr ⟨result, made⟩ _ (List.mem_singleton.mpr rfl)).child ?_
    exact .tail _ (.tail _ (.head _))
  obtain ⟨shown, madeToThree, _⟩ := first 3
  exact ⟨roots, ends, made, keepsClosed, cuts 1, shorter 0 1 (Nat.zero_le 1) _ (cuts 1),
    limited _ (Nat.le_refl _), noTree, shown, madeToThree⟩

end CodeNavigator
