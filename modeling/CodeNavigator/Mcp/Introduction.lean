/-
This file reads what a model says before it calls any tool: the introduction in which it names
itself, the protocol that it speaks and what it can do, and the request to complete a word that is
being typed. Only the form of these matters here.
-/

import CodeNavigator.Json.Form

namespace CodeNavigator.Mcp

open Json (Form Value)

/-! ### Names -/

/-- The name and the version of a program. -/
structure ProgramName where
  name : String
  version : String

namespace ProgramName

/-- The fields read so far. -/
structure Draft where
  name : Option String
  title : Option (Option String)
  version : Option String
  website : Option (Option String)

def fields : List (Form.Field Draft) :=
  [Form.field "name" Form.text Draft.name (fun draft value => { draft with name := value }) false,
    Form.field "title" (Form.optional Form.text) Draft.title
      (fun draft value => { draft with title := some value }) false,
    Form.field "version" Form.text Draft.version
      (fun draft value => { draft with version := value }) false,
    Form.field "websiteUrl" (Form.optional Form.text) Draft.website
      (fun draft value => { draft with website := some value }) false]

/-- The name that the fields make. -/
def Draft.finish (draft : Draft) : Option ProgramName := do
  some ⟨← draft.name, ← draft.version⟩

def form : Form ProgramName :=
  Form.record fields ⟨none, none, none, none⟩ Draft.finish

end ProgramName

/-! ### Abilities -/

/-- What a model can do. Each ability may come with an object that describes it. -/
structure Abilities where
  named : List String

namespace Abilities

/-- The names of the abilities that have a meaning. -/
def known : List String :=
  ["experimental", "roots", "sampling", "elicitation", "tasks"]

/-- One ability, described or absent. -/
def field (name : String) : Form.Field Abilities where
  name := name
  isFilled draft := draft.named.contains name
  read draft levels bytes :=
    (Form.optional Form.object levels bytes).map fun (_, rest) => (⟨name :: draft.named⟩, rest)
  mayBeMissing := false

def form : Form Abilities :=
  Form.record (known.map field) ⟨[]⟩ some

end Abilities

/-! ### Introductions -/

/-- How a model introduces itself. -/
structure Introduction where
  protocol : String
  program : ProgramName

namespace Introduction

/-- The fields read so far. -/
structure Draft where
  protocol : Option String
  abilities : Option Abilities
  program : Option ProgramName

def fields : List (Form.Field Draft) :=
  [Form.field "protocolVersion" Form.text Draft.protocol
      (fun draft value => { draft with protocol := value }) false,
    Form.field "capabilities" Abilities.form Draft.abilities
      (fun draft value => { draft with abilities := value }) false,
    Form.field "clientInfo" ProgramName.form Draft.program
      (fun draft value => { draft with program := value }) false]

/-- The introduction that the fields make. -/
def Draft.finish (draft : Draft) : Option Introduction := do
  let _ ← draft.abilities
  some ⟨← draft.protocol, ← draft.program⟩

def form : Form Introduction :=
  Form.record fields ⟨none, none, none⟩ Draft.finish

end Introduction

/-! ### Completions -/

/-- What a word is completed for: a named prompt, or a resource with an address. -/
structure CompletionTarget where
  kind : String
  label : String

namespace CompletionTarget

/-- The fields read so far. -/
structure Draft where
  kind : Option String
  name : Option String
  title : Option (Option String)
  address : Option String

def fields : List (Form.Field Draft) :=
  [Form.field "type" Form.text Draft.kind (fun draft value => { draft with kind := value }) false,
    Form.field "name" Form.text Draft.name (fun draft value => { draft with name := value }) false,
    Form.field "title" (Form.optional Form.text) Draft.title
      (fun draft value => { draft with title := some value }) false,
    Form.field "uri" Form.text Draft.address
      (fun draft value => { draft with address := value }) false]

/-- The target that the fields make. -/
def Draft.finish (draft : Draft) : Option CompletionTarget := do
  match ← draft.kind with
  | "ref/prompt" => some ⟨"ref/prompt", ← draft.name⟩
  | "ref/resource" => some ⟨"ref/resource", ← draft.address⟩
  | _ => none

def form : Form CompletionTarget :=
  Form.record fields ⟨none, none, none, none⟩ Draft.finish

end CompletionTarget

/-- A word that is being typed as the value of an argument. -/
structure UnfinishedArgument where
  name : String
  value : String

namespace UnfinishedArgument

/-- The fields read so far. -/
structure Draft where
  name : Option String
  value : Option String

def fields : List (Form.Field Draft) :=
  [Form.field "name" Form.text Draft.name (fun draft value => { draft with name := value }) false,
    Form.field "value" Form.text Draft.value
      (fun draft value => { draft with value := value }) false]

/-- The argument that the fields make. -/
def Draft.finish (draft : Draft) : Option UnfinishedArgument := do
  some ⟨← draft.name, ← draft.value⟩

def form : Form UnfinishedArgument :=
  Form.record fields ⟨none, none⟩ Draft.finish

end UnfinishedArgument

/-- A request to complete a word. -/
structure CompletionRequest where
  target : CompletionTarget
  argument : UnfinishedArgument

namespace CompletionRequest

/-- The fields read so far. -/
structure Draft where
  target : Option CompletionTarget
  argument : Option UnfinishedArgument
  context : Option (Option (List (String × Value)))

def fields : List (Form.Field Draft) :=
  [Form.field "ref" CompletionTarget.form Draft.target
      (fun draft value => { draft with target := value }) false,
    Form.field "argument" UnfinishedArgument.form Draft.argument
      (fun draft value => { draft with argument := value }) false,
    Form.field "context" (Form.optional Form.object) Draft.context
      (fun draft value => { draft with context := some value }) false]

/-- The request that the fields make. -/
def Draft.finish (draft : Draft) : Option CompletionRequest := do
  some ⟨← draft.target, ← draft.argument⟩

def form : Form CompletionRequest :=
  Form.record fields ⟨none, none, none⟩ Draft.finish

end CompletionRequest

end CodeNavigator.Mcp
