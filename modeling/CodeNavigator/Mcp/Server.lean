/-
This file answers the calls of a model over its protocol. One method only wants to be answered, one
lists the tools and one calls a tool; the methods that ask for prompts, resources and completions are
answered with nothing. A tool that cannot do what it is asked answers with an error of its own; a
call that cannot be understood is refused by the protocol.
-/

import CodeNavigator.Json.Printer
import CodeNavigator.Mcp.Introduction
import CodeNavigator.Mcp.Schema
import CodeNavigator.Message.Request
import CodeNavigator.Message.Response

namespace CodeNavigator.Mcp

open Json (Form Value)

/-- What a model is told about the tools as a whole. -/
def instructions : String :=
  "Navigate Go workspaces: find definitions through the Go oracle and browse projects and build " ++
    "targets."

/-- What the server can do: it has tools. -/
def capabilities : Value :=
  .object [("tools", .object [])]

/-- An answer to a call. -/
inductive Reply
  | pong
  | welcome
  | noCompletions
  | nothingOf (kind : String)
  | tools (tools : List Tool)
  | result (structured : Value)
  | toolError (text : String)
  | refused (code : Int) (message : String)

/-- The text that goes with a structured result. -/
def resultText (structured : Value) : String :=
  structured.compact

/-- The code of calls whose parameters make no sense. -/
def invalidParameters : Int := -32602

/-- The code of calls of methods that do not exist. -/
def unknownMethod : Int := -32601

/-- The code of calls that the server fails to answer. -/
def internalError : Int := -32603

/-! ### Tools -/

/-- Read the arguments of a tool. They are read like any other text of their form. -/
def withArguments {Asked : Type} (form : Form Asked) (arguments : Value)
    (answer : Asked → Reply × List Command) : Reply × List Command :=
  match form.decode arguments.compact with
  | .ok asked => answer asked
  | .error _ => (.refused invalidParameters "failed to deserialize parameters", [])

def ofResult {Result : Type} (toJson : Result → Value) : Except Failure Result → Reply
  | .ok result => .result (toJson result)
  | .error failure => .toolError failure.message

/-- Call a tool, and tell which commands were run for it. -/
def Tool.call (engine : Engine) (report : Option String) (arguments : Value) :
    Tool → Reply × List Command
  | .findDefinition =>
    withArguments DefinitionRequest.form arguments fun asked =>
      let (found, commands) := engine.findWithCommands asked
      let reply := match found with
        | .done answer => .result answer.toJson
        | .failed failure => .toolError failure.message
        | .broken => .toolError (brokenMessage report)
      (reply, commands)
  | .parseOutput =>
    withArguments OutputRequest.form arguments fun asked =>
      (ofResult Answer.toJson (Engine.parseOutput asked), [])
  | .navigatorTree =>
    withArguments TreeRequest.form arguments fun asked =>
      (ofResult Tree.toJson (engine.tree asked.depth), [])

/-! ### Parameters -/

/-- The parameters of a call, which are an object. What they say about the call itself is an object
too, where they say it. -/
def asParameters? : Value → Option (List (String × Value))
  | .object members =>
    match Json.member? members "_meta" with
    | none | some .null | some (.object _) => some members
    | _ => none
  | _ => none

/-- The parameters of a call that has to bring some, read in their form. -/
def readParameters? {Asked : Type} (form : Form Asked) (parameters : Option Value) :
    Option Asked := do
  let members ← asParameters? (← parameters)
  (form.decode (Value.object members).compact).toOption

/-- Whether the parameters of a call that needs none can be understood. -/
def areOptionalParameters (parameters : Option Value) : Bool :=
  parameters.all fun value => value matches .null || (asParameters? value).isSome

/-! ### Methods -/

/-- A call of a tool. -/
structure ToolCall where
  name : String
  arguments : List (String × Value)
  isTask : Bool

namespace ToolCall

/-- The fields read so far. -/
structure Draft where
  name : Option String
  arguments : Option (Option (List (String × Value)))
  task : Option (Option (List (String × Value)))

def fields : List (Form.Field Draft) :=
  [Form.field "name" Form.text Draft.name (fun draft value => { draft with name := value }) false,
    Form.field "arguments" (Form.optional Form.object) Draft.arguments
      (fun draft value => { draft with arguments := some value }) false,
    Form.field "task" (Form.optional Form.object) Draft.task
      (fun draft value => { draft with task := some value }) false]

/-- The call that the fields make. Arguments that are left out are an empty object, and an argument
that is given again replaces the one before. -/
def Draft.finish (draft : Draft) : Option ToolCall := do
  some ⟨← draft.name, Json.lastOfEach (draft.arguments.join.getD []), draft.task.join.isSome⟩

def form : Form ToolCall :=
  Form.record fields ⟨none, none, none⟩ Draft.finish

end ToolCall

/-- Call the tool that the parameters name. Nothing can be called as a task. -/
def callTool (engine : Engine) (report : Option String) (call : ToolCall) : Reply × List Command :=
  if call.isTask then (.refused internalError "Task processing not implemented", [])
  else
    match Tool.ofName? call.name with
    | some tool => tool.call engine report (.object call.arguments)
    | none => (.refused invalidParameters "tool not found", [])

/-- Answer a call, and tell which commands were run for it. A call whose parameters are not those of
its method is a call of no method. If the call breaks down, there may be a report of it. -/
def answer (engine : Engine) (method : String) (parameters : Option Value)
    (report : Option String := none) : Reply × List Command :=
  let unknown : Reply × List Command := (.refused unknownMethod method, [])
  let unlessStrange (reply : Reply) : Reply × List Command :=
    if areOptionalParameters parameters then (reply, []) else unknown
  match method with
  | "ping" => (.pong, [])
  | "initialize" =>
    if (readParameters? Introduction.form parameters).isSome then (.welcome, []) else unknown
  | "completion/complete" =>
    if (readParameters? CompletionRequest.form parameters).isSome then (.noCompletions, [])
    else unknown
  | "prompts/list" => unlessStrange (.nothingOf "prompts")
  | "resources/list" => unlessStrange (.nothingOf "resources")
  | "resources/templates/list" => unlessStrange (.nothingOf "resourceTemplates")
  | "tools/list" => unlessStrange (.tools Tool.all)
  | "tools/call" =>
    match readParameters? ToolCall.form parameters with
    | some call => callTool engine report call
    | none => unknown
  | _ => unknown

end CodeNavigator.Mcp
