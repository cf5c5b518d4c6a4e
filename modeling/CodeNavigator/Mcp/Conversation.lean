/-
This file writes the protocol of a model down as lines. Every call is a JSON object on a line of its
own and is answered by such a line that carries the same number. A line without a number wants no
answer. A conversation begins with a call that asks what the server is and can do.
-/

import CodeNavigator.Json.Form
import CodeNavigator.Mcp.Server

namespace CodeNavigator.Mcp

open Json (Value)

/-- The version of the protocol that is spoken. -/
def protocolVersion : String := "2025-03-26"

/-- What the first call is answered with. -/
def welcome : Value :=
  .object [("protocolVersion", .string protocolVersion), ("capabilities", capabilities),
    ("serverInfo", .object [("name", .string "rmcp"), ("version", .string "0.14.0")]),
    ("instructions", .string instructions)]

/-- A completion with nothing to choose from. -/
def noCompletions : Value :=
  .object [("completion", .object [("values", .list [])])]

/-- A text as the content of a result. -/
def textContent (text : String) : Value :=
  .list [.object [("type", .string "text"), ("text", .string text)]]

/-- A reply as the member of an answer that holds it. -/
def Reply.toMember : Reply → String × Value
  | .pong => ("result", .object [])
  | .welcome => ("result", Mcp.welcome)
  | .noCompletions => ("result", Mcp.noCompletions)
  | .nothingOf kind => ("result", .object [(kind, .list [])])
  | .tools offered => ("result", .object [("tools", .list (offered.map Tool.toJson))])
  | .result structured =>
    ("result", .object [("content", textContent (resultText structured)),
      ("structuredContent", structured), ("isError", .boolean false)])
  | .toolError message =>
    ("result", .object [("content", textContent message), ("isError", .boolean true)])
  | .refused code message =>
    ("error", .object [("code", .number (.integer code)), ("message", .string message)])

/-- The answer to a call, if it wants one. -/
def respond (engine : Engine) (report : Option String) (call : List (String × Value)) :
    Option Value := do
  let number ← Json.member? call "id"
  let method ← (Json.member? call "method").bind Value.asString?
  let content := (answer engine method (Json.member? call "params") report).1.toMember
  some (.object [("jsonrpc", .string "2.0"), ("id", number), content])

/-- How far a conversation has come: nothing was said, the model has introduced itself, or it knows
that it is welcome. -/
inductive Stage
  | silent
  | introduced
  | welcomed
deriving DecidableEq

/-- The call that a line writes. -/
def callOfLine? (line : String) : Option (List (String × Value)) :=
  match Json.parse line with
  | .ok (.object call) => some call
  | _ => none

/-- Hear a line, and tell the line that answers it, if it wants an answer. What is no call at all is
passed over, and so is what comes too early. -/
def Stage.hear (engine : Engine) (stage : Stage) (line : String)
    (report : Option String := none) : Option String × Stage :=
  match callOfLine? line with
  | none => (none, stage)
  | some call =>
    let method := (Json.member? call "method").bind Value.asString?
    let answered := (respond engine report call).map Value.compact
    match stage with
    | .silent =>
      let isIntroduction := method = some "initialize" &&
        (readParameters? Introduction.form (Json.member? call "params")).isSome
      if isIntroduction && answered.isSome then (answered, .introduced) else (none, .silent)
    | .introduced =>
      if method = some "notifications/initialized" then (none, .welcomed) else (none, .introduced)
    | .welcomed => (answered, .welcomed)

/-- What is missing when a conversation ends. -/
def Stage.missing? : Stage → Option String
  | .silent => some "connection closed: initialized request"
  | .introduced => some "connection closed: initialize notification"
  | .welcomed => none

/-- Hear all lines of a conversation, and tell the answers and how far it has come. Nothing is
reported of calls that break down. -/
def converse (engine : Engine) (lines : List String) : List String × Stage :=
  lines.foldl (fun (answers, stage) line =>
    let (answer, next) := stage.hear engine line
    (answers ++ answer.toList, next)) ([], .silent)

end CodeNavigator.Mcp
