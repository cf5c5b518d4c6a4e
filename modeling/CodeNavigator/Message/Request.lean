/-
This file gives the requests of the engine their JSON form. A field that has a usual value may be
left out.
-/

import CodeNavigator.Engine
import CodeNavigator.Json.Form

namespace CodeNavigator

open Json (Form Value)

/-! ### Requests for a definition -/

namespace DefinitionRequest

/-- The fields read so far. -/
structure Draft where
  file : Option String
  offset : Option Nat
  scope : Option (List String)

def fields : List (Form.Field Draft) :=
  [Form.field "file" Form.text Draft.file (fun draft value => { draft with file := value }) false,
    Form.field "offset" (Form.unsigned 64) Draft.offset
      (fun draft value => { draft with offset := value }) false,
    Form.field "scope" (Form.list Form.text) Draft.scope
      (fun draft value => { draft with scope := value }) true]

/-- The request that the fields make. Without a scope it is empty. -/
def Draft.finish (draft : Draft) : Option DefinitionRequest := do
  some ⟨← draft.file, UInt64.ofNat (← draft.offset), draft.scope.getD []⟩

def form : Form DefinitionRequest :=
  Form.record fields ⟨none, none, none⟩ Draft.finish

def toJson (request : DefinitionRequest) : Value :=
  .object [("file", .string request.file), ("offset", .ofNat request.offset.toNat),
    ("scope", .list (request.scope.map Value.string))]

end DefinitionRequest

/-! ### Requests to interpret saved output -/

namespace OutputRequest

/-- The fields read so far. -/
structure Draft where
  output : Option String
  exitCode : Option Int

def fields : List (Form.Field Draft) :=
  [Form.field "output" Form.text Draft.output
      (fun draft value => { draft with output := value }) false,
    Form.field "exit_code" (Form.integer (-Int.pow 2 31) (Int.pow 2 31 - 1)) Draft.exitCode
      (fun draft value => { draft with exitCode := value }) true]

/-- The request that the fields make. Without an exit code it is zero. -/
def Draft.finish (draft : Draft) : Option OutputRequest := do
  some ⟨← draft.output, Int32.ofInt (draft.exitCode.getD 0)⟩

def form : Form OutputRequest :=
  Form.record fields ⟨none, none⟩ Draft.finish

def toJson (request : OutputRequest) : Value :=
  .object [("output", .string request.output),
    ("exit_code", .number (.integer request.exitCode.toInt))]

end OutputRequest

/-! ### Requests for the tree -/

/-- A request for the tree of the workspace, with the number of levels below the projects. -/
structure TreeRequest where
  depth : Option Nat
deriving DecidableEq

namespace TreeRequest

/-- The fields read so far. -/
structure Draft where
  depth : Option (Option Nat)

def fields : List (Form.Field Draft) :=
  [Form.field "depth" (Form.optional (Form.unsigned 64)) Draft.depth
    (fun draft value => { draft with depth := some value }) false]

/-- The request that the fields make. Without a depth there is no limit. -/
def Draft.finish (draft : Draft) : Option TreeRequest :=
  some ⟨draft.depth.join⟩

def form : Form TreeRequest :=
  Form.record fields ⟨none⟩ Draft.finish

end TreeRequest

end CodeNavigator
