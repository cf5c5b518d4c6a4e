/-
This file proves that requests and answers survive the way through JSON. What is written is read
back, however it is laid out, since each field is. A tree is the exception: each level of it takes
two levels of brackets, and the reader allows so many and no more.

A field with a usual value may be left out of a request. Reading the rest of the request neither
looks at that field nor changes it, so it makes no difference at which place the usual value is
written, or whether it is written at all.
-/

import CodeNavigator.CommandLine.World
import CodeNavigator.Message.Request
import CodeNavigator.Message.Response
import CodeNavigator.Proofs.Json.Omission
import CodeNavigator.Proofs.Navigator.Unfolding

namespace CodeNavigator

open Json (Form Value nestingLimit nestingOfItems wanted within)
open Json.Form

variable {levels : Nat}

/-! ### Texts and numbers -/

theorem makes_string (text : String) : Form.text.Makes levels (.string text) (.ok text) := by
  have readable : (Value.string text).IsReadable := trivial
  exact makes_text readable

theorem makes_ofText (text : Option String) :
    (Form.optional Form.text).Makes levels (.ofText? text) (.ok text) := by
  cases text with
  | none => exact makes_optional_null _
  | some text => exact (makes_string text).optional Value.noConfusion

theorem makes_strings (texts : List String) :
    (Form.list Form.text).Makes (levels + 1) (.list (texts.map .string)) (.ok texts) := by
  rw [← Json.mapM_map_ok]
  refine makes_list ?_
  rw [List.forall₂_map_left_iff, List.forall₂_map_right_iff, List.forall₂_same]
  exact fun text _ => makes_string text

theorem makes_number {value low high : Int} (inRange : -2 ^ 63 ≤ low ∧ high < 2 ^ 64)
    (inside : low ≤ value ∧ value ≤ high) :
    (Form.integer low high).Makes levels (.number (.integer value)) (.ok value) := by
  have readable : (Value.number (.integer value)).IsReadable :=
    ⟨Int.le_trans inRange.1 inside.1, Int.lt_of_le_of_lt inside.2 inRange.2⟩
  have makes : (Form.integer low high).Makes levels _ _ := makes_integer readable low high
  rw [integerBetween?, if_pos inside] at makes
  exact makes

theorem makes_ofNat {bits number : Nat} (narrow : bits ≤ 64) (fits : number < 2 ^ bits) :
    (Form.unsigned bits).Makes levels (.ofNat number) (.ok number) := by
  have small : number < 2 ^ 64 := Nat.lt_of_lt_of_le fits (Nat.pow_le_pow_right (by decide) narrow)
  have readable : (Value.ofNat number).IsReadable := by
    constructor
    · omega
    · exact_mod_cast small
  have high : (number : Int) < 2 ^ bits := by exact_mod_cast fits
  have inside : (0 : Int) ≤ number ∧ (number : Int) ≤ Int.pow 2 bits - 1 :=
    ⟨Int.natCast_nonneg number, Int.le_sub_one_of_lt high⟩
  have makes : (Form.unsigned bits).Makes levels _ _ := makes_unsigned readable bits
  rw [Value.ofNat, integerBetween?, if_pos inside] at makes
  exact makes

/-! ### Records -/

theorem DefinitionRequest.form_makes (request : DefinitionRequest) :
    DefinitionRequest.form.Makes (levels + 2) request.toJson (.ok request) := by
  have file : Takes fields (levels + 1) ("file", .string request.file) _ :=
    takes_known rfl (field_takes (makes_string _))
  have offset : Takes fields (levels + 1) ("offset", .ofNat request.offset.toNat) _ :=
    takes_known rfl (field_takes (makes_ofNat (Nat.le_refl 64) request.offset.toNat_lt))
  have scope : Takes fields (levels + 1) ("scope", .list (request.scope.map Value.string)) _ :=
    takes_known rfl (field_takes (makes_strings _))
  exact makes_record_of_take (.cons file (.cons offset (.cons scope .nil))) rfl
    (by simp [Draft.finish])

theorem OutputRequest.form_makes (request : OutputRequest) :
    OutputRequest.form.Makes (levels + 1) request.toJson (.ok request) := by
  have output : Takes fields levels ("output", .string request.output) _ :=
    takes_known rfl (field_takes (makes_string _))
  have inside : -Int.pow 2 31 ≤ request.exitCode.toInt ∧
      request.exitCode.toInt ≤ Int.pow 2 31 - 1 :=
    ⟨request.exitCode.le_toInt, Int.le_sub_one_of_lt request.exitCode.toInt_lt⟩
  have exitCode : Takes fields levels ("exit_code", .number (.integer request.exitCode.toInt)) _ :=
    takes_known rfl (field_takes (makes_number (by decide) inside))
  exact makes_record_of_take (.cons output (.cons exitCode .nil)) rfl (by simp [Draft.finish])

theorem Health.form_makes (health : Health) :
    Health.form.Makes (levels + 1) health.toJson (.ok health) := by
  have oraclePath : Takes fields levels ("oracle_path", .string health.oraclePath) _ :=
    takes_known rfl (field_takes (makes_string _))
  have workspaceRoot : Takes fields levels ("workspace_root", .string health.workspaceRoot) _ :=
    takes_known rfl (field_takes (makes_string _))
  have projectCount : Takes fields levels ("project_count", .ofNat health.projectCount.toNat) _ :=
    takes_known rfl (field_takes (makes_ofNat (Nat.le_refl 64) health.projectCount.toNat_lt))
  exact makes_record_of_take (.cons oraclePath (.cons workspaceRoot (.cons projectCount .nil))) rfl
    (by simp [Draft.finish])

theorem SourceLocation.form_makes (location : SourceLocation) :
    SourceLocation.form.Makes (levels + 1) location.toJson (.ok location) := by
  have path : Takes fields levels ("path", .string location.path.text) _ :=
    takes_known rfl (field_takes (makes_string _))
  have line : Takes fields levels ("line", .ofNat location.line.toNat) _ :=
    takes_known rfl (field_takes (makes_ofNat (by decide) location.line.toNat_lt))
  have column : Takes fields levels ("column", .ofNat location.column.toNat) _ :=
    takes_known rfl (field_takes (makes_ofNat (by decide) location.column.toNat_lt))
  exact makes_record_of_take (.cons path (.cons line (.cons column .nil))) rfl
    (by simp [Draft.finish])

theorem AnswerKind.form_makes (kind : AnswerKind) :
    AnswerKind.form.Makes levels kind.toJson (.ok kind) := by
  have known : ofName? kind.name = some kind := by cases kind <;> rfl
  exact makes_choice known

theorem Answer.form_makes (answer : Answer) :
    Answer.form.Makes (levels + 2) answer.toJson (.ok answer) := by
  obtain ⟨kind, location, message⟩ := answer
  have whole {place : Value}
      (made : (Form.optional SourceLocation.form).Makes (levels + 1) place (.ok location)) :
      Answer.form.Makes (levels + 2)
        (.object [("kind", kind.toJson), ("location", place), ("message", .ofText? message)])
        (.ok ⟨kind, location, message⟩) := by
    have first : Takes fields (levels + 1) ("kind", kind.toJson) _ :=
      takes_known rfl (field_takes kind.form_makes)
    have second : Takes fields (levels + 1) ("location", place) _ :=
      takes_known rfl (field_takes made)
    have third : Takes fields (levels + 1) ("message", .ofText? message) _ :=
      takes_known rfl (field_takes (makes_ofText message))
    exact makes_record_of_take (.cons first (.cons second (.cons third .nil))) rfl rfl
  cases location with
  | none => exact whole (makes_optional_null _)
  | some location => exact whole (location.form_makes.optional Value.noConfusion)

/-! ### Trees -/

namespace TreeNode

/-- The brackets of a node nest one level deeper than those of the list of its children. -/
theorem nesting_node (label kind : String) (path : Option String) (hasChildren : Bool)
    (children : List TreeNode) :
    (node label kind path hasChildren children).toJson.nesting =
      nestingOfItems (toJsonAll children) + 1 + 1 := by
  have shallow : (Value.ofText? path).nesting = 0 := by cases path <;> rfl
  simp [toJson, Value.nesting, Json.nestingOfMembers, shallow]

mutual

/-- Every level of a tree takes two levels of brackets. -/
theorem nesting_toJson (node : TreeNode) : node.toJson.nesting = 2 * node.height + 2 := by
  obtain ⟨label, kind, path, hasChildren, children⟩ := node
  rw [nesting_node, nestingOfItems_toJsonAll children, height]

theorem nestingOfItems_toJsonAll (nodes : List TreeNode) :
    nestingOfItems (toJsonAll nodes) = 2 * TreeNode.levels nodes := by
  cases nodes with
  | nil => rfl
  | cons first rest =>
    rw [toJsonAll, nestingOfItems, nesting_toJson first, nestingOfItems_toJsonAll rest, levels]
    omega

end

/-- Nodes are read one by one, up to the first that nests too deep. -/
theorem mapM_within (nodes : List TreeNode) :
    (nodes.map fun node => within levels node.toJson.nesting node).mapM id =
      within levels (nestingOfItems (toJsonAll nodes)) nodes := by
  induction nodes with
  | nil => rfl
  | cons first rest inductionHypothesis =>
    rw [List.map_cons, List.mapM_cons, inductionHypothesis, toJsonAll, nestingOfItems]
    unfold within
    by_cases fits : first.toJson.nesting ≤ levels
    · by_cases others : nestingOfItems (toJsonAll rest) ≤ levels
      · rw [if_pos fits, if_pos others, if_pos (Nat.max_le.mpr ⟨fits, others⟩)]
        rfl
      · rw [if_pos fits, if_neg others, if_neg fun both => others (Nat.max_le.mp both).2]
        rfl
    · rw [if_neg fits, if_neg fun both => fits (Nat.max_le.mp both).1]
      rfl

/-- What holds some nodes takes a level of brackets more than they do. -/
theorem map_within {Result : Type} (holder : List TreeNode → Result) (nesting : Nat)
    (nodes : List TreeNode) :
    (within levels nesting nodes).map holder =
      within (levels + 1) (nesting + 1) (holder nodes) := by
  unfold within
  simp only [Nat.add_le_add_iff_right]
  split <;> rfl

/-- A list of nodes takes a level of brackets more than its nodes do. -/
theorem makes_nodes {child : Form TreeNode} {nodes : List TreeNode}
    (parts : ∀ inner, levels = inner + 1 → List.Forall₂ (child.Makes inner) (toJsonAll nodes)
      (nodes.map fun node => within inner node.toJson.nesting node)) :
    (Form.list child).Makes levels (.list (toJsonAll nodes))
      (within levels (nestingOfItems (toJsonAll nodes) + 1) nodes) := by
  cases levels with
  | zero => exact makes_list_zero child (toJsonAll nodes)
  | succ inner =>
    have made := makes_list (parts inner rfl)
    rw [mapM_within] at made
    unfold within at made ⊢
    simp only [Nat.add_le_add_iff_right]
    exact made

mutual

/-- A node is read back if there are levels enough for its brackets, and if not, this is the fault.
-/
theorem formOfHeight_makes (node : TreeNode) {height levels : Nat} (high : levels < height) :
    (formOfHeight height).Makes levels node.toJson (within levels node.toJson.nesting node) := by
  obtain ⟨label, kind, path, hasChildren, children⟩ := node
  obtain ⟨height, rfl⟩ := Nat.exists_eq_add_one_of_ne_zero (Nat.ne_of_gt (Nat.zero_lt_of_lt high))
  cases levels with
  | zero => exact makes_record_zero _ _ _ _
  | succ levels =>
    have first : Takes (fields (formOfHeight height)) levels ("label", .string label) _ :=
      takes_known rfl (field_takes (makes_string _))
    have second : Takes (fields (formOfHeight height)) levels ("kind", .string kind) _ :=
      takes_known rfl (field_takes (makes_string _))
    have third : Takes (fields (formOfHeight height)) levels ("path", .ofText? path) _ :=
      takes_known rfl (field_takes (makes_ofText _))
    have fourth : Takes (fields (formOfHeight height)) levels
        ("has_children", .boolean hasChildren) _ :=
      takes_known rfl (field_takes (makes_boolean _))
    have fifth : Takes (fields (formOfHeight height)) levels
        ("children", .list (toJsonAll children)) _ :=
      takes_known rfl (field_takes (makes_nodes fun inner same =>
        formOfHeight_makes_all children (by omega)))
    have made := makes_record (.cons first (.cons second (.cons third (.cons fourth
      (.cons fifth .nil))))) ⟨none, none, none, none, none⟩ Draft.finish
    rw [nesting_node, ← map_within (node label kind path hasChildren)]
    revert made
    cases within levels (nestingOfItems (toJsonAll children) + 1) children <;> exact id

theorem formOfHeight_makes_all (nodes : List TreeNode) {height levels : Nat}
    (high : levels < height) :
    List.Forall₂ ((formOfHeight height).Makes levels) (toJsonAll nodes)
      (nodes.map fun node => within levels node.toJson.nesting node) := by
  cases nodes with
  | nil => exact List.Forall₂.nil
  | cons first rest =>
    exact List.Forall₂.cons (formOfHeight_makes first high) (formOfHeight_makes_all rest high)

end

theorem form_makes_all (nodes : List TreeNode) :
    List.Forall₂ (form.Makes levels) (toJsonAll nodes)
      (nodes.map fun node => within levels node.toJson.nesting node) :=
  (formOfHeight_makes_all nodes (Nat.lt_succ_self levels)).imp
    fun _ _ makes layout level blanks rest => makes layout level blanks rest

end TreeNode

theorem Tree.form_makes (tree : Tree) :
    Tree.form.Makes levels tree.toJson (within levels tree.toJson.nesting tree) := by
  obtain ⟨workspaceRoot, projects⟩ := tree
  cases levels with
  | zero => exact makes_record_zero _ _ _ _
  | succ levels =>
    have root : Takes fields levels ("workspace_root", .string workspaceRoot) _ :=
      takes_known rfl (field_takes (makes_string _))
    have below : Takes fields levels ("projects", .list (TreeNode.toJsonAll projects)) _ :=
      takes_known rfl (field_takes (TreeNode.makes_nodes fun _ _ =>
        TreeNode.form_makes_all projects))
    have made := makes_record (.cons root (.cons below .nil)) ⟨none, none⟩ Draft.finish
    have nesting : (Tree.mk workspaceRoot projects).toJson.nesting =
        nestingOfItems (TreeNode.toJsonAll projects) + 1 + 1 := by
      simp [toJson, Value.nesting, Json.nestingOfMembers]
    rw [nesting, ← TreeNode.map_within (Tree.mk workspaceRoot)]
    revert made
    cases within levels (nestingOfItems (TreeNode.toJsonAll projects) + 1) projects <;> exact id

/-- The brackets of a tree stay within the limit if no node is more than 61 levels below its
project. -/
theorem Tree.nesting_toJson_le_iff (tree : Tree) :
    tree.toJson.nesting ≤ nestingLimit ↔ tree.height ≤ 61 := by
  have nesting : tree.toJson.nesting = 2 * TreeNode.levels tree.projects + 2 := by
    simp [toJson, Value.nesting, Json.nestingOfMembers, TreeNode.nestingOfItems_toJsonAll]
  have levels : TreeNode.levels tree.projects ≤ 62 ↔ tree.height ≤ 61 := by
    rw [TreeNode.levels_le_iff, height_le_iff]
    exact forall₂_congr fun _ _ => Nat.add_le_add_iff_right
  rw [nesting, ← levels, nestingLimit]
  omega

/-! ### Fields left out -/

/-- A form reads two values alike, in whichever way each of them is written. -/
def ReadsAlike {Result : Type} (form : Form Result) (first second : Value) : Prop :=
  ∀ firstDocument secondDocument, first.IsWrittenAs firstDocument →
    second.IsWrittenAs secondDocument → form.decode firstDocument = form.decode secondDocument

theorem readsAlike_of_makes {Result : Type} {form : Form Result} {first second : Value}
    (makes : ∃ result, form.Makes nestingLimit first result ∧
      form.Makes nestingLimit second result) :
    ReadsAlike form first second := by
  obtain ⟨result, firstMakes, secondMakes⟩ := makes
  intro firstDocument secondDocument firstWritten secondWritten
  exact (firstMakes.decode firstWritten).trans (secondMakes.decode secondWritten).symm

namespace DefinitionRequest

/-- A draft with another scope. -/
def Draft.withScope (scope : Option (List String)) (draft : Draft) : Draft :=
  { draft with scope := scope }

/-- Where there is no scope, the empty one is assumed. -/
theorem finish_withScope (draft : Draft) :
    (draft.withScope (some [])).finish = (draft.withScope none).finish :=
  rfl

/-- All members but the scope leave the scope alone. -/
theorem exists_takes {name : String} (other : name ≠ "scope") {value : Value}
    (readable : name = "file" ∨ name = "offset" → value.IsReadable) :
    ∃ step, Takes fields levels (name, value) step ∧ Leaves Draft.withScope step := by
  by_cases isFile : name = "file"
  · subst isFile
    exact ⟨_, takes_known rfl (field_takes (makes_text (readable (Or.inl rfl)))),
      leaves_field (fun _ _ => rfl) (leaves_map _ fun _ _ _ => rfl)⟩
  by_cases isOffset : name = "offset"
  · subst isOffset
    exact ⟨_, takes_known rfl (field_takes (makes_unsigned (readable (Or.inr rfl)) 64)),
      leaves_field (fun _ _ => rfl) (leaves_map _ fun _ _ _ => rfl)⟩
  · refine ⟨.ok, takes_unknown value ?_, fun _ _ => rfl⟩
    simp [fields, Form.field, Ne.symm isFile, Ne.symm isOffset, Ne.symm other]

/-- An object means the same request whether the empty scope is written or left out. -/
theorem object_without {before after : List (String × Value)}
    (others : ∀ member ∈ before ++ after, member.1 ≠ "scope" ∧
      (member.1 = "file" ∨ member.1 = "offset" → member.2.IsReadable)) :
    ReadsAlike form (.object (before ++ ("scope", .list []) :: after))
      (.object (before ++ after)) := by
  have empty : (Form.list Form.text).Makes 126 (.list []) (.ok []) := makes_strings []
  have takes : Takes fields 126 ("scope", .list []) _ := takes_known rfl (field_takes empty)
  exact readsAlike_of_makes (exists_makes_record_without
    (fun member inside => exists_takes (others member inside).1 (others member inside).2) takes
    (fun _ => rfl) finish_withScope ⟨none, none, none⟩)

/-- A list means the same request whether the empty scope is written or left out. -/
theorem list_without {file offset : Value} (fileReadable : file.IsReadable)
    (offsetReadable : offset.IsReadable) :
    ReadsAlike form (.list [file, offset, .list []]) (.list [file, offset]) := by
  have empty : (Form.list Form.text).Makes 126 (.list []) (.ok []) := makes_strings []
  have parts : ∃ steps, InOrder 126 fields [file, offset] steps (fields.drop 2) ∧
      ∀ step ∈ steps, Leaves Draft.withScope step := by
    refine ⟨_, .next (field_takes (makes_text fileReadable))
      (.next (field_takes (makes_unsigned offsetReadable 64)) (.ended _)), ?_⟩
    exact List.forall_mem_cons.mpr ⟨leaves_map _ fun _ _ _ => rfl,
      List.forall_mem_singleton.mpr (leaves_map _ fun _ _ _ => rfl)⟩
  obtain ⟨steps, inOrder, leaves⟩ := parts
  exact readsAlike_of_makes (exists_makes_list_without inOrder leaves rfl (field_takes empty)
    (fun _ => rfl) finish_withScope ⟨none, none, none⟩)

end DefinitionRequest

namespace OutputRequest

/-- A draft with another exit code. -/
def Draft.withExitCode (exitCode : Option Int) (draft : Draft) : Draft :=
  { draft with exitCode := exitCode }

/-- Where there is no exit code, zero is assumed. -/
theorem finish_withExitCode (draft : Draft) :
    (draft.withExitCode (some 0)).finish = (draft.withExitCode none).finish :=
  rfl

/-- All members but the exit code leave the exit code alone. -/
theorem exists_takes {name : String} (other : name ≠ "exit_code") {value : Value}
    (readable : name = "output" → value.IsReadable) :
    ∃ step, Takes fields levels (name, value) step ∧ Leaves Draft.withExitCode step := by
  by_cases isOutput : name = "output"
  · subst isOutput
    exact ⟨_, takes_known rfl (field_takes (makes_text (readable rfl))),
      leaves_field (fun _ _ => rfl) (leaves_map _ fun _ _ _ => rfl)⟩
  · refine ⟨.ok, takes_unknown value ?_, fun _ _ => rfl⟩
    simp [fields, Form.field, Ne.symm isOutput, Ne.symm other]

/-- Zero is an exit code. -/
theorem makes_zero : (Form.integer (-Int.pow 2 31) (Int.pow 2 31 - 1)).Makes levels
    (.number (.integer 0)) (.ok 0) :=
  makes_number (by decide) (by decide)

/-- An object means the same request whether the exit code zero is written or left out. -/
theorem object_without {before after : List (String × Value)}
    (others : ∀ member ∈ before ++ after, member.1 ≠ "exit_code" ∧
      (member.1 = "output" → member.2.IsReadable)) :
    ReadsAlike form (.object (before ++ ("exit_code", .number (.integer 0)) :: after))
      (.object (before ++ after)) := by
  have takes : Takes fields 126 ("exit_code", .number (.integer 0)) _ :=
    takes_known rfl (field_takes makes_zero)
  exact readsAlike_of_makes (exists_makes_record_without
    (fun member inside => exists_takes (others member inside).1 (others member inside).2) takes
    (fun _ => rfl) finish_withExitCode ⟨none, none⟩)

/-- A list means the same request whether the exit code zero is written or left out. -/
theorem list_without {output : Value} (readable : output.IsReadable) :
    ReadsAlike form (.list [output, .number (.integer 0)]) (.list [output]) := by
  have parts : ∃ steps, InOrder 126 fields [output] steps (fields.drop 1) ∧
      ∀ step ∈ steps, Leaves Draft.withExitCode step := by
    refine ⟨_, .next (field_takes (makes_text readable)) (.ended _), ?_⟩
    exact List.forall_mem_singleton.mpr (leaves_map _ fun _ _ _ => rfl)
  obtain ⟨steps, inOrder, leaves⟩ := parts
  exact readsAlike_of_makes (exists_makes_list_without inOrder leaves rfl (field_takes makes_zero)
    (fun _ => rfl) finish_withExitCode ⟨none, none⟩)

end OutputRequest

/-! ### Messages -/

/-- A form reads every message back from each way in which it is written. -/
def ReadsBack {Message : Type} (form : Form Message) (toJson : Message → Value) : Prop :=
  ∀ message document, (toJson message).IsWrittenAs document → form.decode document = .ok message

theorem readsBack_of_makes {Message : Type} {form : Form Message} {toJson : Message → Value}
    (makes : ∀ message, form.Makes nestingLimit (toJson message) (.ok message)) :
    ReadsBack form toJson :=
  fun message _ written => (makes message).decode written

/-- What is shown of an answer as JSON is read back, and shows the same text. -/
theorem Answer.decode_shown (answer : Answer) :
    Answer.form.decode (CommandLine.shown answer true) = .ok answer := by
  have makes : Answer.form.Makes nestingLimit answer.toJson (.ok answer) := answer.form_makes
  exact makes.decode (Value.isWrittenAs_indented answer.toJson).line

namespace CommandLine

/-- The order that shows an answer to people, for one that shows it as JSON. -/
def Order.plain? : Order → Option Order
  | .findDefinition request true => some (.findDefinition request false)
  | .parse input exitCode true => some (.parse input exitCode false)
  | _ => none

/-- The JSON that an order prints holds the answer that the plain order prints. -/
theorem follow_plain {world : World} {runner : Runner} {settings : Settings} {order plain : Order}
    {ending : Ending} (isPlain : order.plain? = some plain)
    (followed : follow world runner settings order = some ending) (good : ending.error = none) :
    ∃ answer, Answer.form.decode ending.output = .ok answer ∧
      follow world runner settings plain = some (.success (answer.render ++ "\n")) := by
  have decoded {answer : Answer} (same : some (Ending.success (shown answer true)) = some ending) :
      Answer.form.decode ending.output = .ok answer := by
    cases same
    exact answer.decode_shown
  unfold Order.plain? at isPlain
  split at isPlain
  · cases isPlain
    unfold follow at followed ⊢
    dsimp only at followed ⊢
    split at followed
    · exact ⟨_, decoded followed, rfl⟩
    · cases followed
      cases good
    · cases followed
  · cases isPlain
    unfold follow at followed ⊢
    dsimp only at followed ⊢
    split at followed
    · cases followed
      cases good
    · split at followed
      · exact ⟨_, decoded followed, rfl⟩
      · cases followed
        cases good
  · cases isPlain

end CommandLine

/-- A tree is read back if the reader allows as many levels as its brackets have, and the reader has
no other reason to refuse it. -/
theorem Tree.readDocument_written {tree : Tree} {document : String}
    (written : tree.toJson.IsWrittenAs document) :
    (Tree.form.decode document = .ok tree ↔ tree.height ≤ 61) ∧
      (61 < tree.height →
        (Json.readDocument (Tree.form nestingLimit) (Text.Utf8.encode document)).mapError
          Json.Fault.cause = .error .nestingTooDeep) ∧
      ∀ levels, tree.toJson.nesting ≤ levels →
        (Json.readDocument (Tree.form levels) (Text.Utf8.encode document)).mapError
          Json.Fault.cause = .ok tree := by
  have makes : Tree.form.Makes nestingLimit tree.toJson _ := tree.form_makes
  have fits := tree.nesting_toJson_le_iff
  refine ⟨?_, fun deep => ?_, fun levels enough => ?_⟩
  · rw [makes.decode written, within, ← fits]
    split
    · next inside => exact iff_of_true rfl inside
    · next outside => exact iff_of_false nofun outside
  · rw [makes.readDocument written, within, if_neg]
    exact fun inside => Nat.not_le_of_lt deep (fits.mp inside)
  · rw [tree.form_makes.readDocument written, within, if_pos enough]

/-- Requests and answers survive JSON.

Every request, answer, report and location is read back from its JSON, be it written in one line or
indented. So from the JSON that an order prints, the text can be made that the plain order prints.

A tree is read back just if no node is more than 61 levels below its project. The JSON of a deeper
tree is refused for the depth of its brackets and for nothing else: a reader that allows as many
levels as the brackets have reads the tree back.

A request without scope or exit code means the same as with the empty scope or with zero written
out, whatever else it holds, at whichever place the field would stand, and also where the request is
written as a list. -/
theorem messages_survive_json :
    (∀ value : Value, value.IsWrittenAs value.compact ∧ value.IsWrittenAs value.indented) ∧
    (ReadsBack DefinitionRequest.form DefinitionRequest.toJson ∧
      ReadsBack OutputRequest.form OutputRequest.toJson ∧ ReadsBack Health.form Health.toJson ∧
      ReadsBack Answer.form Answer.toJson ∧ ReadsBack SourceLocation.form SourceLocation.toJson) ∧
    (∀ (world : CommandLine.World) (runner : Runner) (settings : Settings)
      (order plain : CommandLine.Order) (ending : CommandLine.Ending), order.plain? = some plain →
      CommandLine.follow world runner settings order = some ending → ending.error = none →
      ∃ answer, Answer.form.decode ending.output = .ok answer ∧
        CommandLine.follow world runner settings plain = some (.success (answer.render ++ "\n"))) ∧
    (∀ answer : Answer, CommandLine.shown answer false = answer.render ++ "\n" ∧
      Answer.form.decode (CommandLine.shown answer true) = .ok answer) ∧
    (∀ (tree : Tree) (document : String), tree.toJson.IsWrittenAs document →
      (Tree.form.decode document = .ok tree ↔ tree.height ≤ 61) ∧
      (61 < tree.height →
        (Json.readDocument (Tree.form nestingLimit) (Text.Utf8.encode document)).mapError
          Json.Fault.cause = .error .nestingTooDeep) ∧
      ∀ levels, tree.toJson.nesting ≤ levels →
        (Json.readDocument (Tree.form levels) (Text.Utf8.encode document)).mapError
          Json.Fault.cause = .ok tree) ∧
    (∀ before after : List (String × Value),
      ((∀ member ∈ before ++ after, member.1 ≠ "scope" ∧
          (member.1 = "file" ∨ member.1 = "offset" → member.2.IsReadable)) →
        ReadsAlike DefinitionRequest.form (.object (before ++ ("scope", .list []) :: after))
          (.object (before ++ after))) ∧
      ((∀ member ∈ before ++ after, member.1 ≠ "exit_code" ∧
          (member.1 = "output" → member.2.IsReadable)) →
        ReadsAlike OutputRequest.form
          (.object (before ++ ("exit_code", .number (.integer 0)) :: after))
          (.object (before ++ after)))) ∧
    ∀ first second : Value, first.IsReadable →
      (second.IsReadable → ReadsAlike DefinitionRequest.form (.list [first, second, .list []])
        (.list [first, second])) ∧
      ReadsAlike OutputRequest.form (.list [first, .number (.integer 0)]) (.list [first]) := by
  refine ⟨fun value => ⟨value.isWrittenAs_compact, value.isWrittenAs_indented⟩,
    ⟨readsBack_of_makes DefinitionRequest.form_makes, readsBack_of_makes OutputRequest.form_makes,
      readsBack_of_makes Health.form_makes, readsBack_of_makes Answer.form_makes,
      readsBack_of_makes SourceLocation.form_makes⟩,
    fun _ _ _ _ _ _ isPlain followed good => CommandLine.follow_plain isPlain followed good,
    fun answer => ⟨rfl, answer.decode_shown⟩,
    fun tree document written => tree.readDocument_written written,
    fun before after => ⟨DefinitionRequest.object_without, OutputRequest.object_without⟩,
    fun first second readable => ⟨DefinitionRequest.list_without readable,
      OutputRequest.list_without readable⟩⟩

/-- Directories inside each other, so many levels deep. -/
def TreeNode.nest : Nat → TreeNode
  | 0 => .node "d" "directory" (some "/ws/d") false []
  | levels + 1 => .node "d" "directory" none true [nest levels]

theorem TreeNode.height_nest (levels : Nat) : (nest levels).height = levels := by
  induction levels with
  | zero => rfl
  | succ levels inductionHypothesis =>
    rw [nest, height, TreeNode.levels, inductionHypothesis]
    exact Nat.max_zero _

/-- The largest offset, an order for the JSON of an answer, the deepest tree that is read back and
one that is deeper by a level, and requests with an unknown member that is beyond all ranges and
with a file that is no text. -/
theorem messages_survive_json_at_limits :
    let request : DefinitionRequest := ⟨"C:\\ü \"x\"\n\x07.go", 18446744073709551615, ["a", ""]⟩
    let saved : Value := .object [("describe", .object [("desc", .string "source file")])]
    let world : CommandLine.World := ⟨.empty, [], [], Text.Utf8.encode saved.compact⟩
    let runner : Runner := fun _ => .broken
    let printed := CommandLine.shown ⟨.empty, none, none⟩ true
    let tree (levels : Nat) : Tree := ⟨"/ws", [.node "p" "project" none true [], .nest levels]⟩
    let more : Value := .ofNat 18446744073709551616
    let written : List (String × Value) :=
      [("offset", .ofNat 3), ("scope", .list []), ("more", more)]
    let short : List (String × Value) := [("offset", .ofNat 3), ("more", more)]
    DefinitionRequest.form.decode request.toJson.indented = .ok request ∧
    CommandLine.follow world runner .standard (.parse none 0 true) = some (.success printed) ∧
    (∃ answer, Answer.form.decode printed = .ok answer ∧
      CommandLine.follow world runner .standard (.parse none 0 false) =
        some (.success (answer.render ++ "\n"))) ∧
    (tree 61).height = 61 ∧ Tree.form.decode (tree 61).toJson.compact = .ok (tree 61) ∧
    (tree 62).height = 62 ∧ Tree.form.decode (tree 62).toJson.compact ≠ .ok (tree 62) ∧
    (Json.readDocument (Tree.form nestingLimit)
      (Text.Utf8.encode (tree 62).toJson.compact)).mapError Json.Fault.cause =
        .error .nestingTooDeep ∧
    (∀ member ∈ short, member.1 ≠ "scope" ∧
      (member.1 = "file" ∨ member.1 = "offset" → member.2.IsReadable)) ∧
    DefinitionRequest.form.decode (Value.object written).compact =
      DefinitionRequest.form.decode (Value.object short).indented ∧
    Value.IsReadable .null ∧
    OutputRequest.form.decode (Value.list [.null, .number (.integer 0)]).compact =
      OutputRequest.form.decode (Value.list [.null]).compact := by
  intro request saved world runner printed tree more written short
  obtain ⟨forms, ⟨definition, _⟩, orders, _, trees, objects, lists⟩ := messages_survive_json
  have followed : CommandLine.follow world runner .standard (.parse none 0 true) =
      some (.success printed) := by
    have parsed : Json.parse saved.compact = .ok saved :=
      Json.parse_valueText (fun _ => Json.Layout.separates_compact) ⟨⟨trivial, trivial⟩, trivial⟩
        (by decide)
    have output : world.output none = .ok saved.compact := by
      simp only [CommandLine.World.output, world, Text.Utf8.decode?_encode]
    have answered : Engine.parseOutput ⟨saved.compact, 0⟩ = .ok ⟨.empty, none, none⟩ := by
      simp only [Engine.parseOutput, Finding.ofOutput, Finding.ofText, parsed, if_true]
      rfl
    simp only [CommandLine.follow, output, answered]
    rfl
  have height (levels : Nat) : (tree levels).height = levels := by
    show max 0 (max (TreeNode.nest levels).height 0) = levels
    rw [TreeNode.height_nest]
    omega
  have members : ∀ member ∈ short, member.1 ≠ "scope" ∧
      (member.1 = "file" ∨ member.1 = "offset" → member.2.IsReadable) :=
    List.forall_mem_cons.mpr ⟨⟨by decide, fun _ => ⟨by decide, by decide⟩⟩,
      List.forall_mem_singleton.mpr ⟨by decide, fun named => absurd named (by decide)⟩⟩
  have alike := (objects [("offset", .ofNat 3)] [("more", more)]).1 members
  obtain ⟨deepest, _⟩ := trees (tree 61) _ (forms _).1
  obtain ⟨deeper, refused, _⟩ := trees (tree 62) _ (forms _).1
  have whole := deepest.mpr (Nat.le_of_eq (height 61))
  have plain :=
    orders world runner .standard (.parse none 0 true) (.parse none 0 false) _ rfl followed rfl
  have tooDeep : ¬ (tree 62).height ≤ 61 := by
    rw [height 62]
    decide
  exact ⟨definition request _ (forms _).2, followed, plain, height 61, whole, height 62,
    mt deeper.mp tooDeep, refused (Nat.lt_of_not_le tooDeep), members,
    alike _ _ (forms _).1 (forms _).2, trivial,
    (lists .null .null trivial).2 _ _ (forms _).1 (forms _).1⟩

end CodeNavigator
