/-
This file describes the tools that a model can call, as the listing of tools shows them: what each
tool is called, what it does, and the schemas of its arguments and of its results.
-/

import CodeNavigator.Json.Value

namespace CodeNavigator.Mcp

open Json (Value)

/-! ### Parts of schemas -/

def dialect : String × Value :=
  ("$schema", .string "https://json-schema.org/draft/2020-12/schema")

def ofType (name : String) : String × Value :=
  ("type", .string name)

def described (description : String) : String × Value :=
  ("description", .string description)

def required (names : List String) : String × Value :=
  ("required", .list (names.map Value.string))

def reference (name : String) : Value :=
  .object [("$ref", .string ("#/$defs/" ++ name))]

def properties (members : List (String × Value)) : String × Value :=
  ("properties", .object members)

def text : Value :=
  .object [ofType "string"]

def textOrNull : List (String × Value) :=
  [("nullable", .boolean true), ofType "string"]

/-- The schema of an unsigned number of some format, with further members in front. -/
def unsigned (format : String) (members : List (String × Value)) : Value :=
  .object (members ++ [("format", .string format), ("minimum", .ofNat 0), ofType "integer"])

def listOf (items : Value) : List (String × Value) :=
  [("items", items), ofType "array"]

/-! ### Arguments -/

def definitionArguments : Value :=
  .object [dialect,
    properties
      [("file", .object [ofType "string",
          described "Go source file; relative paths are resolved against the workspace root."]),
        ("offset", unsigned "uint" [described "Byte offset of the cursor inside the file."]),
        ("scope", .object ([("default", .list []),
          described "Packages the oracle should analyse. Defaults to the file's directory."] ++
            listOf text))],
    required ["file", "offset"], ("title", .string "FindDefinitionRequest"), ofType "object"]

def outputArguments : Value :=
  .object [dialect,
    properties
      [("exit_code", .object [("default", .ofNat 0), ("format", .string "int32"),
          ofType "integer"]),
        ("output", .object [ofType "string",
          described "Raw stdout of `oracle -format=json describe`."])],
    required ["output"], ("title", .string "ParseOutputRequest"), ofType "object"]

def treeArguments : Value :=
  .object [dialect,
    properties
      [("depth", unsigned "uint"
        [described "Levels to expand below each project; all when omitted.",
          ("nullable", .boolean true)])],
    ("title", .string "TreeParams"), ofType "object"]

/-! ### Results -/

def answerKindSchema : Value :=
  .object [("enum", .list [.string "empty", .string "location", .string "soft_failure"]),
    ofType "string"]

def locationSchema : Value :=
  .object [
    properties
      [("column", unsigned "uint32" [described "1-based."]),
        ("line", unsigned "uint32" [described "1-based."]), ("path", text)],
    required ["path", "line", "column"], ofType "object"]

def answerResult : Value :=
  .object [
    ("$defs", .object [("DefinitionKind", answerKindSchema), ("LocationDto", locationSchema)]),
    dialect,
    properties
      [("kind", reference "DefinitionKind"),
        ("location", .object [
          ("anyOf", .list [reference "LocationDto",
            .object [("const", .null), ("nullable", .boolean true)]]),
          described "Set for `location`."]),
        ("message", .object (described "Set for `soft_failure`." :: textOrNull))],
    required ["kind"], ("title", .string "DefinitionResponse"), ofType "object"]

def nodeSchema : Value :=
  .object [
    properties
      [("children", .object (listOf (reference "TreeNode"))),
        ("has_children", .object [ofType "boolean"]),
        ("kind", .object [described "project|build_targets|build_target|directory|file",
          ofType "string"]),
        ("label", text), ("path", .object textOrNull)],
    required ["label", "kind", "has_children", "children"], ofType "object"]

def treeResult : Value :=
  .object [
    ("$defs", .object [("TreeNode", nodeSchema)]), dialect,
    properties
      [("projects", .object (listOf (reference "TreeNode"))), ("workspace_root", text)],
    required ["workspace_root", "projects"], ("title", .string "TreeResponse"), ofType "object"]

/-! ### Tools -/

/-- The tools that can be called. -/
inductive Tool
  | findDefinition
  | navigatorTree
  | parseOutput
deriving DecidableEq

namespace Tool

/-- All tools, ordered by name. -/
def all : List Tool :=
  [.findDefinition, .navigatorTree, .parseOutput]

def name : Tool → String
  | .findDefinition => "find_definition"
  | .navigatorTree => "navigator_tree"
  | .parseOutput => "parse_oracle_output"

def description : Tool → String
  | .findDefinition =>
    "Find the definition of the Go identifier at a byte offset, using the Go oracle."
  | .navigatorTree => "List workspace projects, build targets and files as a tree."
  | .parseOutput =>
    "Interpret raw `oracle -format=json describe` output as a find-definition result."

def argumentSchema : Tool → Value
  | .findDefinition => definitionArguments
  | .navigatorTree => treeArguments
  | .parseOutput => outputArguments

def resultSchema : Tool → Value
  | .findDefinition | .parseOutput => answerResult
  | .navigatorTree => treeResult

/-- A tool as the listing shows it. -/
def toJson (tool : Tool) : Value :=
  .object [("description", .string tool.description), ("inputSchema", tool.argumentSchema),
    ("name", .string tool.name), ("outputSchema", tool.resultSchema)]

/-- The tool of that name. -/
def ofName? (name : String) : Option Tool :=
  all.find? fun tool => tool.name = name

end Tool

end CodeNavigator.Mcp
