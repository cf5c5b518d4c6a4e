/-
This file answers requests over HTTP. The path alone selects what is asked for, the method says
whether it may be asked so, and the query and the body carry the details. What goes wrong in the
engine is told by the status: the oracle failed, its output makes no sense, the request is at fault,
or the call broke down.
-/

import CodeNavigator.Http.MediaType
import CodeNavigator.Http.Query
import CodeNavigator.Message.Request
import CodeNavigator.Message.Response

namespace CodeNavigator.Http

/-! ### Requests and responses -/

/-- A request. The target is a path with perhaps a query. -/
structure Request where
  method : String
  target : String
  headers : List (String × String)
  body : List UInt8

/-- What a response carries. -/
inductive Content
  | empty
  | json (value : Json.Value)
  | text (text : String)

/-- A response, with the commands that were run for it. The type of its content is given even where
the content itself is left out. -/
structure Response where
  status : Nat
  contentType : Option String
  allow : Option String
  content : Content
  commands : List Command

/-- Any web page may read the responses. -/
def Response.allowedOrigin : String := "*"

namespace Response

def bare (status : Nat) (allow : Option String) : Response :=
  ⟨status, none, allow, .empty, []⟩

def json (status : Nat) (value : Json.Value) : Response :=
  ⟨status, some "application/json", none, .json value, []⟩

def text (status : Nat) (text : String) : Response :=
  ⟨status, some "text/plain; charset=utf-8", none, .text text, []⟩

def error (status : Nat) (message : String) : Response :=
  .json status (.object [("error", .string message)])

/-- The response to a call that broke down. -/
def broken (report : Option String) : Response :=
  .error 500 (brokenMessage report)

/-- The response to one who wants to know everything but the content. -/
def withoutContent (response : Response) : Response :=
  { response with content := .empty }

end Response

/-! ### The engine behind the paths -/

/-- The status that tells what a failure comes from. -/
def statusOf (failure : Failure) : Nat :=
  match failure.oracleError? with
  | some (.failedCall _) => 502
  | some (.malformedOutput _) => 422
  | none => 400

def ofAnswer : Except Failure Answer → Response
  | .ok answer => .json 200 answer.toJson
  | .error failure => .error (statusOf failure) failure.message

def definition (engine : Engine) (report : Option String) (request : DefinitionRequest) :
    Response :=
  let (found, commands) := engine.findWithCommands request
  let response := match found with
    | .done answer => ofAnswer (.ok answer)
    | .failed failure => ofAnswer (.error failure)
    | .broken => .broken report
  { response with commands := commands }

def tree (engine : Engine) (query : String) : Response :=
  match queryDepth query with
  | none => .text 400 "Failed to deserialize query string"
  | some depth =>
    match engine.tree depth with
    | .ok tree => .json 200 tree.toJson
    | .error failure => .error 500 failure.message

/-! ### Bodies -/

/-- The value of a header, whose name counts without regard to case. -/
def Request.header? (request : Request) (name : String) : Option String :=
  (request.headers.find? fun header => header.1.toLower = name).map Prod.snd

/-- Whether the body of a request is said to be JSON. -/
def Request.hasJsonBody (request : Request) : Bool :=
  match (request.header? "content-type").bind MediaType.read with
  | some mediaType => mediaType.isJson
  | none => false

/-- How many bytes a body may have. -/
def longestBody : Nat := 2097152

/-- Answer a request by what its body asks for. A body that is not said to be JSON is not read at
all. -/
def withBody {Asked : Type} (form : Json.Form Asked) (request : Request)
    (answer : Asked → Response) : Response :=
  if !request.hasJsonBody then
    .text 415 "Expected request with `Content-Type: application/json`"
  else if longestBody < request.body.length then
    .text 413 "Failed to buffer the request body: length limit exceeded"
  else
    match form.decodeBytes request.body with
    | .ok asked => answer asked
    | .error .form => .text 422 "Failed to deserialize the JSON body into the target type"
    | .error _ => .text 400 "Failed to parse the request body as JSON"

/-! ### Routes -/

/-- What can be asked for. -/
inductive Route
  | health
  | definition
  | output
  | tree
deriving DecidableEq

def Route.ofPath? (path : String) : Option Route :=
  if path = "/health" then some .health
  else if path = "/definition" then some .definition
  else if path = "/definition/parse" then some .output
  else if path = "/tree" then some .tree
  else none

/-- Whether something is asked for without a body. -/
def Route.isRead : Route → Bool
  | .health | .tree => true
  | .definition | .output => false

/-- The methods by which something may be asked for. -/
def Route.allow (route : Route) : String :=
  if route.isRead then "GET,HEAD" else "POST"

/-- The path and the query of a target. A scheme and an authority in front of the path and a
fragment behind the query are left out. -/
def splitTarget (target : String) : String × String :=
  let (whole, _) := Text.cutFirst '#' target.toList
  let (path, query) := Text.cutFirst '?' whole
  let local? := match path.dropWhile fun character => character ≠ ':' && character ≠ '/' with
    | ':' :: '/' :: '/' :: authority => authority.dropWhile (· ≠ '/')
    | _ => path
  (String.ofList local?, String.ofList query)

/-- Answer a request for a route in a way that is allowed. -/
def Route.answer (engine : Engine) (report : Option String) (request : Request) (query : String) :
    Route → Response
  | .health => .json 200 engine.health.toJson
  | .tree => Http.tree engine query
  | .definition => withBody DefinitionRequest.form request (Http.definition engine report)
  | .output =>
    withBody OutputRequest.form request fun asked => ofAnswer (Engine.parseOutput asked)

/-- Answer a request. If the call breaks down, there may be a report of it. -/
def answer (engine : Engine) (request : Request) (report : Option String := none) : Response :=
  let (path, query) := splitTarget request.target
  let route? := Route.ofPath? path
  if request.method = "OPTIONS" then .bare 200 (route?.map Route.allow)
  else
    match route? with
    | none => .bare 404 none
    | some route =>
      if route.isRead then
        if request.method = "GET" then route.answer engine report request query
        else if request.method = "HEAD" then
          (route.answer engine report request query).withoutContent
        else .bare 405 (some route.allow)
      else if request.method = "POST" then route.answer engine report request query
      else .bare 405 (some route.allow)

end CodeNavigator.Http
