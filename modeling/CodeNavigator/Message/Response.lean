/-
This file gives the answers of the engine their JSON form. Members are written in a fixed order, and
what is absent is written as null. When an answer is read, a member that may be absent may also be
left out of an object.
-/

import CodeNavigator.Engine
import CodeNavigator.Json.Form

namespace CodeNavigator

open Json (Form Value)

/-! ### Locations -/

namespace SourceLocation

/-- The fields read so far. -/
structure Draft where
  path : Option String
  line : Option Nat
  column : Option Nat

def fields : List (Form.Field Draft) :=
  [Form.field "path" Form.text Draft.path (fun draft value => { draft with path := value }) false,
    Form.field "line" (Form.unsigned 32) Draft.line
      (fun draft value => { draft with line := value }) false,
    Form.field "column" (Form.unsigned 32) Draft.column
      (fun draft value => { draft with column := value }) false]

/-- The location that the fields make. -/
def Draft.finish (draft : Draft) : Option SourceLocation := do
  some ⟨⟨← draft.path⟩, UInt32.ofNat (← draft.line), UInt32.ofNat (← draft.column)⟩

def form : Form SourceLocation :=
  Form.record fields ⟨none, none, none⟩ Draft.finish

def toJson (location : SourceLocation) : Value :=
  .object [("path", .string location.path.text), ("line", .ofNat location.line.toNat),
    ("column", .ofNat location.column.toNat)]

end SourceLocation

/-! ### Answers -/

namespace AnswerKind

/-- The kind of that name. -/
def ofName? (name : String) : Option AnswerKind :=
  [AnswerKind.empty, .location, .softFailure].find? fun kind => kind.name = name

def form : Form AnswerKind :=
  Form.choice ofName?

def toJson (kind : AnswerKind) : Value :=
  .string kind.name

end AnswerKind

namespace Answer

/-- The fields read so far. -/
structure Draft where
  kind : Option AnswerKind
  location : Option (Option SourceLocation)
  message : Option (Option String)

def fields : List (Form.Field Draft) :=
  [Form.field "kind" AnswerKind.form Draft.kind
      (fun draft value => { draft with kind := value }) false,
    Form.field "location" (Form.optional SourceLocation.form) Draft.location
      (fun draft value => { draft with location := some value }) false,
    Form.field "message" (Form.optional Form.text) Draft.message
      (fun draft value => { draft with message := some value }) false]

/-- The answer that the fields make. -/
def Draft.finish (draft : Draft) : Option Answer := do
  some ⟨← draft.kind, draft.location.join, draft.message.join⟩

def form : Form Answer :=
  Form.record fields ⟨none, none, none⟩ Draft.finish

def toJson (answer : Answer) : Value :=
  .object [("kind", answer.kind.toJson),
    ("location", match answer.location with
      | some location => location.toJson
      | none => .null),
    ("message", .ofText? answer.message)]

end Answer

/-! ### Trees -/

namespace TreeNode

/-- The fields read so far. -/
structure Draft where
  label : Option String
  kind : Option String
  path : Option (Option String)
  hasChildren : Option Bool
  children : Option (List TreeNode)

def fields (child : Form TreeNode) : List (Form.Field Draft) :=
  [Form.field "label" Form.text Draft.label
      (fun draft value => { draft with label := value }) false,
    Form.field "kind" Form.text Draft.kind (fun draft value => { draft with kind := value }) false,
    Form.field "path" (Form.optional Form.text) Draft.path
      (fun draft value => { draft with path := some value }) false,
    Form.field "has_children" Form.boolean Draft.hasChildren
      (fun draft value => { draft with hasChildren := value }) false,
    Form.field "children" (Form.list child) Draft.children
      (fun draft value => { draft with children := value }) false]

/-- The node that the fields make. -/
def Draft.finish (draft : Draft) : Option TreeNode := do
  some (.node (← draft.label) (← draft.kind) draft.path.join (← draft.hasChildren)
    (← draft.children))

/-- A node that is at most so many nodes high. -/
def formOfHeight : Nat → Form TreeNode
  | 0 => fun _ bytes => .error (.next .nestingTooDeep bytes)
  | height + 1 => Form.record (fields (formOfHeight height)) ⟨none, none, none, none, none⟩
      Draft.finish

/-- A node. Every node opens a bracket, so no node is higher than the levels that are left. -/
def form : Form TreeNode := fun levels bytes =>
  formOfHeight (levels + 1) levels bytes

mutual

def toJson : TreeNode → Value
  | .node label kind path hasChildren children =>
    .object [("label", .string label), ("kind", .string kind), ("path", .ofText? path),
      ("has_children", .boolean hasChildren), ("children", .list (toJsonAll children))]

def toJsonAll : List TreeNode → List Value
  | [] => []
  | first :: rest => first.toJson :: toJsonAll rest

end

end TreeNode

namespace Tree

/-- The fields read so far. -/
structure Draft where
  workspaceRoot : Option String
  projects : Option (List TreeNode)

def fields : List (Form.Field Draft) :=
  [Form.field "workspace_root" Form.text Draft.workspaceRoot
      (fun draft value => { draft with workspaceRoot := value }) false,
    Form.field "projects" (Form.list TreeNode.form) Draft.projects
      (fun draft value => { draft with projects := value }) false]

/-- The tree that the fields make. -/
def Draft.finish (draft : Draft) : Option Tree := do
  some ⟨← draft.workspaceRoot, ← draft.projects⟩

def form : Form Tree :=
  Form.record fields ⟨none, none⟩ Draft.finish

def toJson (tree : Tree) : Value :=
  .object [("workspace_root", .string tree.workspaceRoot),
    ("projects", .list (TreeNode.toJsonAll tree.projects))]

end Tree

/-! ### Health -/

namespace Health

/-- The fields read so far. -/
structure Draft where
  oraclePath : Option String
  workspaceRoot : Option String
  projectCount : Option Nat

def fields : List (Form.Field Draft) :=
  [Form.field "oracle_path" Form.text Draft.oraclePath
      (fun draft value => { draft with oraclePath := value }) false,
    Form.field "workspace_root" Form.text Draft.workspaceRoot
      (fun draft value => { draft with workspaceRoot := value }) false,
    Form.field "project_count" (Form.unsigned 64) Draft.projectCount
      (fun draft value => { draft with projectCount := value }) false]

/-- The report that the fields make. -/
def Draft.finish (draft : Draft) : Option Health := do
  some ⟨← draft.oraclePath, ← draft.workspaceRoot, UInt64.ofNat (← draft.projectCount)⟩

def form : Form Health :=
  Form.record fields ⟨none, none, none⟩ Draft.finish

def toJson (health : Health) : Value :=
  .object [("oracle_path", .string health.oraclePath),
    ("workspace_root", .string health.workspaceRoot),
    ("project_count", .ofNat health.projectCount.toNat)]

end Health

end CodeNavigator
