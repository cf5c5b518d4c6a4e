/-
This file unfolds the elements of the navigator into a tree and prints it. A depth says how many
levels below the projects are unfolded; without one the tree goes as deep as the model does. The
printed tree has one line for each node, indented by two spaces a level, and marks projects and
directories by a slash.
-/

import CodeNavigator.Navigator.Model

namespace CodeNavigator

/-- A node of the tree as it is sent to other programs. Its kind is a text, since a tree that comes
from elsewhere may name any kind. -/
inductive TreeNode
  | node (label kind : String) (path : Option String) (hasChildren : Bool)
    (children : List TreeNode)

/-- A tree: the workspace it was made for and a node for each project. -/
structure Tree where
  workspaceRoot : String
  projects : List TreeNode

/-! ### Unfolding -/

namespace Model

/-- The node of an element over the nodes below it. -/
def node (model : Model) (element : Element) (below : List TreeNode) : TreeNode :=
  .node element.label element.kind.name (element.path?.map Path.text) (model.hasChildren element)
    below

/-- The node of an element with so many levels below it. An element that cannot be opened is not
asked for its children. -/
def unfold (model : Model) : Nat → Element → TreeNode
  | 0, element => model.node element []
  | depth + 1, element =>
    model.node element
      (if model.hasChildren element then (model.children element).map (model.unfold depth) else [])

/-! ### Unfolding without a limit -/

/-- One element is a child of another. -/
def IsChild (model : Model) (child element : Element) : Prop :=
  child ∈ model.children element

/-- No way down from an element is without end. -/
inductive Ends (model : Model) : Element → Prop
  | intro {element : Element} (below : ∀ child ∈ model.children element, model.Ends child) :
    model.Ends element

/-- What cannot be opened has no children. -/
theorem children_of_hasChildren {model : Model} {element : Element}
    (closed : model.hasChildren element = false) : model.children element = [] := by
  cases element with
  | project project =>
    have closed : model.isAccessible project = false := closed
    exact if_neg (by rw [closed]; exact Bool.false_ne_true)
  | buildTargets => cases closed
  | buildTarget => rfl
  | resource _ _ isDirectory =>
    obtain rfl : isDirectory = false := closed
    rfl

theorem ends_of_children_eq_nil {model : Model} {element : Element}
    (bare : model.children element = []) : model.Ends element :=
  .intro fun child member => by
    rw [bare] at member
    cases member

/-- The node of an element with all levels below it, which end. -/
structure Whole (model : Model) (element : Element) where
  node : TreeNode
  ends : model.Ends element

/-- The nodes of some elements, if there is one for each of them. -/
def gather (model : Model) : (elements : List Element) →
    (∀ element ∈ elements, Option (model.Whole element)) →
      Option { _nodes : List TreeNode // ∀ element ∈ elements, model.Ends element }
  | [], _ => some ⟨[], nofun⟩
  | first :: rest, unfolded => do
    let whole ← unfolded first List.mem_cons_self
    let others ← gather model rest fun element member =>
      unfolded element (List.mem_cons_of_mem first member)
    some ⟨whole.node :: others.1, List.forall_mem_cons.mpr ⟨whole.ends, others.2⟩⟩

/-- Put the node of an element over those of its children. -/
def overChildren (model : Model) (element : Element)
    (unfolded : ∀ child, model.IsChild child element → Option (model.Whole child)) :
    Option (model.Whole element) :=
  if openable : model.hasChildren element = true then
    (model.gather (model.children element) unfolded).map fun below =>
      ⟨model.node element below.1, .intro below.2⟩
  else
    some ⟨model.node element [],
      ends_of_children_eq_nil (children_of_hasChildren (Bool.eq_false_iff.mpr openable))⟩

/-- Unfold an element to all levels. Where the levels never end, this comes to no end either, and has
no result. -/
def whole? (model : Model) (element : Element) : Option (model.Whole element) :=
  WellFounded.partialExtrinsicFix model.IsChild model.overChildren element

/-- The node of an element with all levels below it, if they end. -/
def unfoldAll (model : Model) (element : Element) : Option TreeNode :=
  (model.whole? element).map Whole.node

/-! ### Trees -/

/-- The node of an element with the levels that are asked for, if they come to an end. -/
def unfoldTo? (model : Model) : Option Nat → Element → Option TreeNode
  | some depth, element => some (model.unfold depth element)
  | none, element => model.unfoldAll element

/-- The tree of a workspace, if it comes to an end. -/
def tree? (model : Model) (workspaceRoot : Path) (depth : Option Nat) :
    Option (Except Failure Tree) :=
  match model.roots with
  | .ok roots =>
    (roots.mapM (model.unfoldTo? depth)).map fun projects => .ok ⟨workspaceRoot.text, projects⟩
  | .error failure => some (.error (failure.during (.listingProjects workspaceRoot)))

/-- The levels that are asked for come to an end. -/
def Finishes (model : Model) (depth : Option Nat) : Prop :=
  depth = none → ∀ roots, model.roots = .ok roots → ∀ root ∈ roots, model.Ends root

/-- The tree of a workspace in which the levels that are asked for come to an end. In any other one
nothing is ever shown, and the bare tree here only stands for that. -/
def tree (model : Model) (workspaceRoot : Path) (depth : Option Nat) : Except Failure Tree :=
  (model.tree? workspaceRoot depth).getD (.ok ⟨workspaceRoot.text, []⟩)

end Model

/-! ### Printing -/

namespace TreeNode

/-- Whether a kind is marked as one that holds other elements. -/
def isContainer (kind : String) : Bool :=
  kind = ElementKind.project.name || kind = ElementKind.directory.name

/-- The line of a node. -/
def line (level : Nat) (label kind : String) : List Char :=
  List.replicate (2 * level) ' ' ++ label.toList ++ (if isContainer kind then ['/'] else []) ++
    ['\n']

mutual

/-- The lines of a node and of all nodes below it. -/
def lines (level : Nat) : TreeNode → List Char
  | .node label kind _ _ children => line level label kind ++ linesOfAll (level + 1) children

def linesOfAll (level : Nat) : List TreeNode → List Char
  | [] => []
  | first :: rest => first.lines level ++ linesOfAll level rest

end

end TreeNode

/-- A tree as a text for people. -/
def Tree.render (tree : Tree) : String :=
  String.ofList (TreeNode.linesOfAll 0 tree.projects)

end CodeNavigator
