/-
This file proves that a printed tree can be read in one way only. The text has one line for each node,
a node before those below it, and a line shows no more of its node than how deep it stands, its label
and whether it is marked. How the nodes hang together is not written down.

It is found again from the last line to the first. Below a line stand the lines that follow at once
and are deeper, and by then these have already been put together to a few nodes, however many levels
a line jumps back up. What is read depends on the labels: they must not break a line, must not hold
the mark, and must not begin with a space, since that would look like depth.
-/

import CodeNavigator.Proofs.Navigator.Unfolding
import CodeNavigator.Proofs.Text.Split

namespace CodeNavigator

/-! ### The nodes in their order -/

namespace TreeNode

/-- A node that stands so many levels down. -/
structure Placed where
  depth : Nat
  self : TreeNode

def Placed.lower (placed : Placed) : Placed :=
  { placed with depth := placed.depth + 1 }

mutual

/-- A node and all nodes below it, each one before those below it. -/
def preorder : TreeNode → List Placed
  | .node label kind path hasChildren children =>
    ⟨0, .node label kind path hasChildren children⟩ :: (preorderOfAll children).map Placed.lower

def preorderOfAll : List TreeNode → List Placed
  | [] => []
  | first :: rest => first.preorder ++ preorderOfAll rest

end

mutual

theorem isIn_of_mem_preorder {placed : Placed} (whole : TreeNode)
    (member : placed ∈ whole.preorder) : placed.self.IsIn whole := by
  obtain ⟨label, kind, path, hasChildren, children⟩ := whole
  rw [preorder, List.mem_cons, List.mem_map] at member
  rcases member with rfl | ⟨below, member, rfl⟩
  · exact .self _
  · obtain ⟨child, isChild, isIn⟩ := exists_isIn_of_mem_preorderOfAll children member
    exact .deeper isChild isIn

theorem exists_isIn_of_mem_preorderOfAll {placed : Placed} (nodes : List TreeNode)
    (member : placed ∈ preorderOfAll nodes) : ∃ whole ∈ nodes, placed.self.IsIn whole := by
  cases nodes with
  | nil => cases member
  | cons first rest =>
    rw [preorderOfAll, List.mem_append] at member
    rcases member with here | later
    · exact ⟨first, List.mem_cons_self, isIn_of_mem_preorder first here⟩
    · obtain ⟨whole, isLater, isIn⟩ := exists_isIn_of_mem_preorderOfAll rest later
      exact ⟨whole, List.mem_cons_of_mem _ isLater, isIn⟩

end

theorem mem_preorderOfAll_of_mem {placed : Placed} {whole : TreeNode} {nodes : List TreeNode}
    (isIn : placed ∈ whole.preorder) (member : whole ∈ nodes) : placed ∈ preorderOfAll nodes := by
  induction nodes with
  | nil => cases member
  | cons first rest inductionHypothesis =>
    rw [preorderOfAll, List.mem_append]
    rcases List.mem_cons.mp member with rfl | member
    · exact Or.inl isIn
    · exact Or.inr (inductionHypothesis member)

theorem exists_mem_preorder_of_isIn {node whole : TreeNode} (isIn : node.IsIn whole) :
    ∃ placed ∈ whole.preorder, placed.self = node := by
  induction isIn with
  | self =>
    obtain ⟨label, kind, path, hasChildren, children⟩ := node
    exact ⟨_, List.mem_cons_self, rfl⟩
  | @deeper child whole member _ inductionHypothesis =>
    obtain ⟨label, kind, path, hasChildren, children⟩ := whole
    obtain ⟨placed, isIn, rfl⟩ := inductionHypothesis
    have below := mem_preorderOfAll_of_mem isIn member
    exact ⟨placed.lower, List.mem_cons_of_mem _ (List.mem_map_of_mem below), rfl⟩

/-- All nodes are listed, and nothing else. -/
theorem exists_mem_preorderOfAll_iff {node : TreeNode} {nodes : List TreeNode} :
    (∃ placed ∈ preorderOfAll nodes, placed.self = node) ↔ ∃ whole ∈ nodes, node.IsIn whole := by
  constructor
  · rintro ⟨placed, member, rfl⟩
    exact exists_isIn_of_mem_preorderOfAll nodes member
  · rintro ⟨whole, member, isIn⟩
    obtain ⟨placed, listed, same⟩ := exists_mem_preorder_of_isIn isIn
    exact ⟨placed, mem_preorderOfAll_of_mem listed member, same⟩

end TreeNode

/-! ### Sketches and their lines -/

/-- What a printed tree shows of a node: its label, whether it is marked, and the nodes below it. -/
inductive Sketch
  | node (label : String) (isMarked : Bool) (below : List Sketch)

namespace Sketch

/-- What a line shows of its node. -/
structure Line where
  level : Nat
  label : String
  isMarked : Bool
deriving DecidableEq

mutual

/-- The lines of a sketch whose own line is on some level. -/
def lines (level : Nat) : Sketch → List Line
  | .node label isMarked below => ⟨level, label, isMarked⟩ :: linesOfAll (level + 1) below

def linesOfAll (level : Nat) : List Sketch → List Line
  | [] => []
  | first :: rest => first.lines level ++ linesOfAll level rest

end

/-- A node that was read stands below a level. -/
def isBelow (level : Nat) (node : Nat × Sketch) : Bool :=
  level < node.1

/-- Put lines together to sketches, each with its level. The lines after the first one are put
together already, and what is deeper stands below it as far as it follows at once. -/
def assemble : List Line → List (Nat × Sketch)
  | [] => []
  | line :: rest =>
    (line.level, .node line.label line.isMarked
        (((assemble rest).takeWhile (isBelow line.level)).map Prod.snd)) ::
      (assemble rest).dropWhile (isBelow line.level)

theorem map_snd_mk (level : Nat) (sketches : List Sketch) :
    (sketches.map (Prod.mk level)).map Prod.snd = sketches := by
  rw [List.map_map]
  exact List.map_id sketches

/-- Where some lines are put together, the first sketch does not stand below a level. -/
def EndsAt (level : Nat) (rest : List Line) : Prop :=
  ∀ next ∈ (assemble rest).head?, isBelow level next = false

theorem EndsAt.succ {level : Nat} {rest : List Line} (ends : EndsAt level rest) :
    EndsAt (level + 1) rest := by
  intro next first
  have above := ends next first
  rw [isBelow, decide_eq_false_iff_not] at above ⊢
  exact fun below => above (Nat.lt_of_succ_lt below)

mutual

/-- The lines of a sketch are put together to it, if what follows does not stand below it. -/
theorem assemble_lines {level : Nat} {rest : List Line} (ends : EndsAt level rest)
    (sketch : Sketch) :
    assemble (sketch.lines level ++ rest) = (level, sketch) :: assemble rest := by
  obtain ⟨label, isMarked, below⟩ := sketch
  have later := assemble_linesOfAll ends.succ below
  have deeper : ∀ node ∈ below.map (Prod.mk (level + 1)), isBelow level node = true := by
    intro node member
    obtain ⟨sketch, _, rfl⟩ := List.mem_map.mp member
    exact decide_eq_true (Nat.lt_succ_self level)
  obtain ⟨taken, dropped⟩ := Text.takeWhile_append_of_stops deeper ends
  rw [lines, List.cons_append, assemble, later, taken, dropped, map_snd_mk]

theorem assemble_linesOfAll {level : Nat} {rest : List Line} (ends : EndsAt level rest)
    (sketches : List Sketch) :
    assemble (linesOfAll level sketches ++ rest) =
      sketches.map (Prod.mk level) ++ assemble rest := by
  cases sketches with
  | nil => rfl
  | cons first others =>
    have later := assemble_linesOfAll ends others
    have endsFirst : EndsAt level (linesOfAll level others ++ rest) := by
      rw [EndsAt, later]
      cases others with
      | nil => exact ends
      | cons second _ =>
        intro next here
        cases here
        exact decide_eq_false (Nat.lt_irrefl level)
    rw [linesOfAll, List.append_assoc, assemble_lines endsFirst first, later]
    rfl

end

/-! ### Lines as text -/

/-- A line as it is written. -/
def Line.write (line : Line) : List Char :=
  List.replicate (2 * line.level) ' ' ++ line.label.toList ++ if line.isMarked then ['/'] else []

/-- Take a written line apart. -/
def Line.read (line : List Char) : Line :=
  let written := line.dropWhile (· = ' ')
  ⟨(line.takeWhile (· = ' ')).length / 2, String.ofList (written.takeWhile (· ≠ '/')),
    written.contains '/'⟩

/-- A label that neither breaks its line nor holds or hides what else the line shows. -/
structure IsPlain (label : String) : Prop where
  noBreak : '\n' ∉ label.toList
  noMark : '/' ∉ label.toList
  noIndent : label.toList.head? ≠ some ' '

instance (label : String) : Decidable (IsPlain label) :=
  decidable_of_iff ('\n' ∉ label.toList ∧ '/' ∉ label.toList ∧ label.toList.head? ≠ some ' ')
    ⟨fun ⟨noBreak, noMark, noIndent⟩ => ⟨noBreak, noMark, noIndent⟩,
      fun isPlain => ⟨isPlain.noBreak, isPlain.noMark, isPlain.noIndent⟩⟩

theorem Line.read_write {line : Line} (isPlain : IsPlain line.label) : read line.write = line := by
  obtain ⟨level, label, isMarked⟩ := line
  have indent : ∀ character ∈ List.replicate (2 * level) ' ', decide (character = ' ') = true :=
    fun character member => decide_eq_true (List.eq_of_mem_replicate member)
  have written : ∀ character ∈ (label.toList ++ if isMarked then ['/'] else []).head?,
      decide (character = ' ') = false := by
    intro character first
    refine decide_eq_false fun space => isPlain.noIndent ?_
    subst space
    cases text : label.toList with
    | nil => cases isMarked <;> simp [text] at first
    | cons => simpa [text] using first
  have called : ∀ character ∈ label.toList, decide (character ≠ '/') = true :=
    fun character member => decide_eq_true fun mark => isPlain.noMark (mark ▸ member)
  have marked : ∀ character ∈ (if isMarked then ['/'] else []).head?,
      decide (character ≠ '/') = false := by
    cases isMarked <;> simp
  obtain ⟨taken, left⟩ := Text.takeWhile_append_of_stops indent written
  have label_eq := (Text.takeWhile_append_of_stops called marked).1
  have mark_eq : (label.toList ++ if isMarked then ['/'] else []).contains '/' = isMarked := by
    cases isMarked <;> simp [isPlain.noMark]
  rw [write, read, List.append_assoc]
  simp only [taken, left, label_eq, mark_eq, List.length_replicate, String.ofList_toList,
    Nat.mul_div_cancel_left level (Nat.succ_pos 1)]

theorem Line.not_mem_write {line : Line} (isPlain : IsPlain line.label) : '\n' ∉ line.write := by
  have noBreak := isPlain.noBreak
  rw [write]
  cases line.isMarked <;> simp [noBreak]

/-- Read a printed tree. -/
def read (text : String) : List Sketch :=
  (assemble ((Text.split '\n' text.toList).dropLast.map Line.read)).map Prod.snd

/-- The written lines of some sketches are read as these sketches. -/
theorem read_linesOfAll {sketches : List Sketch}
    (arePlain : ∀ line ∈ linesOfAll 0 sketches, IsPlain line.label) :
    read (String.ofList ((linesOfAll 0 sketches).flatMap fun line => line.write ++ ['\n'])) =
      sketches := by
  have ends : EndsAt 0 [] := nofun
  have put := assemble_linesOfAll ends sketches
  have apart : ((linesOfAll 0 sketches).map Line.write).map Line.read = linesOfAll 0 sketches := by
    rw [List.map_map]
    exact (List.map_congr_left fun line member => Line.read_write (arePlain line member)).trans
      (List.map_id _)
  have cut : Text.split '\n' ((linesOfAll 0 sketches).flatMap fun line => line.write ++ ['\n']) =
      (linesOfAll 0 sketches).map Line.write ++ [[]] := by
    rw [← Text.split_flatMap_concat, List.flatMap_map]
    intro part member
    obtain ⟨line, listed, rfl⟩ := List.mem_map.mp member
    exact Line.not_mem_write (arePlain line listed)
  rw [List.append_nil] at put
  rw [read, String.toList_ofList, cut, List.dropLast_concat, apart, put, assemble, List.append_nil,
    map_snd_mk]

end Sketch

/-! ### One line for each node -/

namespace TreeNode

open Sketch (Line)

mutual

/-- What is printed of a node. -/
def sketch : TreeNode → Sketch
  | .node label kind _ _ children => .node label (isContainer kind) (sketchOfAll children)

def sketchOfAll : List TreeNode → List Sketch
  | [] => []
  | first :: rest => first.sketch :: sketchOfAll rest

end

theorem isContainer_iff {kind : String} :
    isContainer kind = true ↔ kind = "project" ∨ kind = "directory" := by
  rw [isContainer, Bool.or_eq_true, decide_eq_true_eq, decide_eq_true_eq]
  rfl

/-- What the line of a node shows that stands below some level. -/
def Placed.shownBelow (level : Nat) (placed : Placed) : Line :=
  ⟨level + placed.depth, placed.self.label, isContainer placed.self.kind⟩

theorem Placed.shownBelow_lower (level : Nat) (placed : Placed) :
    placed.lower.shownBelow level = placed.shownBelow (level + 1) := by
  rw [shownBelow, shownBelow, lower, Nat.add_assoc, Nat.add_comm 1]

mutual

theorem map_shownBelow_preorder (level : Nat) (node : TreeNode) :
    node.preorder.map (Placed.shownBelow level) = node.sketch.lines level := by
  obtain ⟨label, kind, path, hasChildren, children⟩ := node
  have lowered : Placed.shownBelow level ∘ Placed.lower = Placed.shownBelow (level + 1) :=
    funext (Placed.shownBelow_lower level)
  rw [preorder, List.map_cons, List.map_map, lowered, map_shownBelow_preorderOfAll, sketch,
    Sketch.lines]
  rfl

theorem map_shownBelow_preorderOfAll (level : Nat) (nodes : List TreeNode) :
    (preorderOfAll nodes).map (Placed.shownBelow level) =
      Sketch.linesOfAll level (sketchOfAll nodes) := by
  cases nodes with
  | nil => rfl
  | cons first rest =>
    rw [preorderOfAll, List.map_append, map_shownBelow_preorder level first,
      map_shownBelow_preorderOfAll level rest]
    rfl

end

mutual

theorem lines_eq_flatMap (level : Nat) (node : TreeNode) :
    node.lines level = (node.sketch.lines level).flatMap fun line => line.write ++ ['\n'] := by
  obtain ⟨label, kind, path, hasChildren, children⟩ := node
  rw [lines, linesOfAll_eq_flatMap]
  rfl

theorem linesOfAll_eq_flatMap (level : Nat) (nodes : List TreeNode) :
    linesOfAll level nodes =
      (Sketch.linesOfAll level (sketchOfAll nodes)).flatMap fun line => line.write ++ ['\n'] := by
  cases nodes with
  | nil => rfl
  | cons first rest =>
    rw [linesOfAll, sketchOfAll, Sketch.linesOfAll, List.flatMap_append, lines_eq_flatMap level first,
      linesOfAll_eq_flatMap level rest]

end

end TreeNode

namespace Tree

/-- All labels in a tree are plain. -/
def IsPlain (tree : Tree) : Prop :=
  ∀ project ∈ tree.projects, ∀ node : TreeNode, node.IsIn project → Sketch.IsPlain node.label

open TreeNode (Placed preorderOfAll sketchOfAll)

theorem render_eq (tree : Tree) :
    tree.render = String.ofList ((Sketch.linesOfAll 0 (sketchOfAll tree.projects)).flatMap fun line =>
      line.write ++ ['\n']) := by
  rw [render, TreeNode.linesOfAll_eq_flatMap]

theorem isPlain_iff {tree : Tree} :
    tree.IsPlain ↔ ∀ placed ∈ preorderOfAll tree.projects, Sketch.IsPlain placed.self.label := by
  constructor
  · intro isPlain placed member
    obtain ⟨project, isProject, isIn⟩ :=
      TreeNode.exists_mem_preorderOfAll_iff.mp ⟨placed, member, rfl⟩
    exact isPlain project isProject placed.self isIn
  · intro arePlain project isProject node isIn
    obtain ⟨placed, member, rfl⟩ :=
      TreeNode.exists_mem_preorderOfAll_iff.mpr ⟨project, isProject, isIn⟩
    exact arePlain placed member

instance (tree : Tree) : Decidable tree.IsPlain :=
  decidable_of_iff' _ isPlain_iff

theorem IsPlain.read_render {tree : Tree} (isPlain : tree.IsPlain) :
    Sketch.read tree.render = sketchOfAll tree.projects := by
  rw [render_eq]
  refine Sketch.read_linesOfAll fun line member => ?_
  rw [← TreeNode.map_shownBelow_preorderOfAll] at member
  obtain ⟨placed, listed, rfl⟩ := List.mem_map.mp member
  exact isPlain_iff.mp isPlain placed listed

/-- A tree is printed with one line for each node, in their order. Where the labels are plain, what is
printed is read back, and two trees have the same text exactly if they show the same. -/
theorem printed_tree_unambiguous (tree : Tree) :
    (∀ node : TreeNode, (∃ placed ∈ preorderOfAll tree.projects, placed.self = node) ↔
      ∃ project ∈ tree.projects, node.IsIn project) ∧
    tree.render = String.ofList ((preorderOfAll tree.projects).flatMap fun placed =>
      List.replicate (2 * placed.depth) ' ' ++ placed.self.label.toList ++
        (if placed.self.kind = "project" ∨ placed.self.kind = "directory" then ['/'] else []) ++
        ['\n']) ∧
    (tree.IsPlain → Sketch.read tree.render = sketchOfAll tree.projects ∧
      ∀ other : Tree, other.IsPlain →
        (tree.render = other.render ↔ sketchOfAll tree.projects = sketchOfAll other.projects)) := by
  refine ⟨fun node => TreeNode.exists_mem_preorderOfAll_iff, ?_, fun isPlain =>
    ⟨isPlain.read_render, fun other otherIsPlain => ⟨fun same => ?_, fun same => ?_⟩⟩⟩
  · rw [render_eq, ← TreeNode.map_shownBelow_preorderOfAll, List.flatMap_map]
    refine congrArg String.ofList (List.flatMap_congr fun placed _ => ?_)
    simp only [Sketch.Line.write, Placed.shownBelow, Nat.zero_add, TreeNode.isContainer_iff]
  · rw [← isPlain.read_render, same, otherIsPlain.read_render]
  · rw [render_eq, same, ← render_eq]

/-- A project with a line of nothing but spaces, from below which the next project jumps back up. The
other tree has other kinds and paths, which are not shown. -/
theorem printed_tree_unambiguous_over_blank_label :
    let tree : Tree := ⟨"/ws", [.node "p" "project" (some "/ws/p") true
      [.node "" "file" none false [.node "x y" "directory" none true []]],
      .node "q" "project" none true []]⟩
    let other : Tree := ⟨"", [.node "p" "directory" none false
      [.node "" "build_target" (some "") true [.node "x y" "project" none true []]],
      .node "q" "directory" (some "q") false []]⟩
    tree.IsPlain ∧ other.IsPlain ∧ tree.render = "p/\n  \n    x y/\nq/\n" ∧
    Sketch.read "p/\n  \n    x y/\nq/\n" =
      [.node "p" true [.node "" false [.node "x y" true []]], .node "q" true []] ∧
    other.render = tree.render := by
  intro tree other
  have isPlain : tree.IsPlain := by decide
  have otherIsPlain : other.IsPlain := by decide
  have text : tree.render = "p/\n  \n    x y/\nq/\n" := by decide
  obtain ⟨_, _, reads⟩ := printed_tree_unambiguous tree
  obtain ⟨read, same⟩ := reads isPlain
  refine ⟨isPlain, otherIsPlain, text, ?_, ((same other otherIsPlain).mpr rfl).symm⟩
  rw [← text, read]
  rfl

end Tree

end CodeNavigator
