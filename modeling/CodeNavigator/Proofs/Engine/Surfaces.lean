/-
This file compares the two surfaces of the engine, the one over HTTP and the one for models, with
the engine itself. A request that can be understood is a question to the engine, and both surfaces
show what the engine comes to: its result, or the whole text of its failure. Over HTTP the status
tells besides whether the oracle failed, whether its output made no sense, or whether something else
went wrong. The layers that a failure gathers on its way are part of its text but not of its status.
-/

import CodeNavigator.Http.Router
import CodeNavigator.Mcp.Server
import CodeNavigator.Proofs.Engine.SavedOutput
import CodeNavigator.Proofs.Message.RoundTrip

namespace CodeNavigator

open Json (Value)

/-! ### Questions -/

/-- What can be asked of an engine on both surfaces. -/
inductive Question
  | definition (request : DefinitionRequest)
  | output (request : OutputRequest)
  | tree (depth : Option Nat)

/-- What an engine comes to when it is asked, with a result as JSON. -/
def Engine.reply (engine : Engine) : Question → Outcome Value
  | .definition request =>
    match engine.findDefinition request with
    | .done answer => .done answer.toJson
    | .failed failure => .failed failure
    | .broken => .broken
  | .output request =>
    match Engine.parseOutput request with
    | .ok answer => .done answer.toJson
    | .error failure => .failed failure
  | .tree depth =>
    match engine.tree depth with
    | .ok tree => .done tree.toJson
    | .error failure => .failed failure

/-- An HTTP request that can be understood as a question. -/
inductive Http.Asks (request : Http.Request) : Question → Prop
  | definition {asked : DefinitionRequest} (method : request.method = "POST")
    (path : (splitTarget request.target).1 = "/definition") (isJson : request.hasJsonBody = true)
    (fits : request.body.length ≤ longestBody)
    (decoded : DefinitionRequest.form.decodeBytes request.body = .ok asked) :
    Http.Asks request (.definition asked)
  | output {asked : OutputRequest} (method : request.method = "POST")
    (path : (splitTarget request.target).1 = "/definition/parse")
    (isJson : request.hasJsonBody = true) (fits : request.body.length ≤ longestBody)
    (decoded : OutputRequest.form.decodeBytes request.body = .ok asked) :
    Http.Asks request (.output asked)
  | tree {depth : Option Nat} (method : request.method = "GET")
    (path : (splitTarget request.target).1 = "/tree")
    (decoded : queryDepth (splitTarget request.target).2 = some depth) :
    Http.Asks request (.tree depth)

/-- The parameters of a tool call that can be understood as a question. -/
inductive Mcp.Asks (parameters : Option Value) : Question → Prop
  | definition {call : ToolCall} {asked : DefinitionRequest}
    (called : readParameters? ToolCall.form parameters = some call) (now : call.isTask = false)
    (name : call.name = "find_definition")
    (decoded : DefinitionRequest.form.decode (Value.object call.arguments).compact = .ok asked) :
    Mcp.Asks parameters (.definition asked)
  | output {call : ToolCall} {asked : OutputRequest}
    (called : readParameters? ToolCall.form parameters = some call) (now : call.isTask = false)
    (name : call.name = "parse_oracle_output")
    (decoded : OutputRequest.form.decode (Value.object call.arguments).compact = .ok asked) :
    Mcp.Asks parameters (.output asked)
  | tree {call : ToolCall} {asked : TreeRequest}
    (called : readParameters? ToolCall.form parameters = some call) (now : call.isTask = false)
    (name : call.name = "navigator_tree")
    (decoded : TreeRequest.form.decode (Value.object call.arguments).compact = .ok asked) :
    Mcp.Asks parameters (.tree asked.depth)

/-! ### HTTP -/

namespace Http

/-- A response carries the whole text of a failure. -/
def Response.Tells (response : Response) (failure : Failure) : Prop :=
  response.content = .json (.object [("error", .string (": ".intercalate failure.chain))])

/-- A response tells that a call broke down, with the report of it. -/
def Response.TellsBroken (response : Response) (report : Option String) : Prop :=
  response.content = .json (.object [("error", .string (brokenMessage report))])

/-- What a response shows, with a status for each failure. -/
inductive Shows (statusOf : Failure → Nat) (report : Option String) (response : Response) :
    Outcome Value → Prop
  | done {value : Value} (status : response.status = 200)
    (content : response.content = .json value) : Shows statusOf report response (.done value)
  | failed {failure : Failure} (status : response.status = statusOf failure)
    (tells : response.Tells failure) : Shows statusOf report response (.failed failure)
  | broken (status : response.status = 500) (tells : response.TellsBroken report) :
    Shows statusOf report response .broken

/-- The status of a failure. Where no oracle is called, every failure is one of the server. -/
def failureStatus : Question → Failure → Nat
  | .tree _, _ => 500
  | _, failure => Http.statusOf failure

/-- No failure looks like a result. -/
theorem failureStatus_ne (question : Question) (failure : Failure) :
    failureStatus question failure ≠ 200 := by
  cases question with
  | tree depth =>
    show 500 ≠ 200
    decide
  | definition | output =>
    show statusOf failure ≠ 200
    unfold statusOf
    split <;> decide

variable (engine : Engine) (report : Option String)

/-- A request for a route, by the method of the route, is answered by the route. -/
theorem answer_eq_route {request : Request} {route : Route}
    (path : Route.ofPath? (splitTarget request.target).1 = some route)
    (method : request.method = if route.isRead then "GET" else "POST") :
    answer engine request report =
      route.answer engine report request (splitTarget request.target).2 := by
  unfold answer
  dsimp only
  rw [path, method]
  cases route <;> simp [Route.isRead]

theorem withBody_eq {Asked : Type} {form : Json.Form Asked} {request : Request} {asked : Asked}
    (isJson : request.hasJsonBody = true) (fits : request.body.length ≤ longestBody)
    (decoded : form.decodeBytes request.body = .ok asked) (answer : Asked → Response) :
    withBody form request answer = answer asked := by
  rw [withBody, isJson, if_neg (Nat.not_lt.mpr fits), decoded]
  rfl

theorem shows_definition (asked : DefinitionRequest) :
    Shows statusOf report (definition engine report asked)
      (engine.reply (.definition asked)) := by
  rw [definition, engine.findWithCommands_eq, Engine.reply]
  cases engine.findDefinition asked with
  | done answer => exact .done rfl rfl
  | failed failure => exact .failed rfl rfl
  | broken => exact .broken rfl rfl

theorem shows_output (asked : OutputRequest) :
    Shows statusOf report (ofAnswer (Engine.parseOutput asked)) (engine.reply (.output asked)) := by
  rw [Engine.reply]
  cases Engine.parseOutput asked with
  | ok answer => exact .done rfl rfl
  | error failure => exact .failed rfl rfl

theorem shows_tree {query : String} {depth : Option Nat}
    (decoded : queryDepth query = some depth) :
    Shows (fun _ => 500) report (tree engine query) (engine.reply (.tree depth)) := by
  rw [tree, decoded, Engine.reply]
  dsimp only
  cases engine.tree depth with
  | ok tree => exact .done rfl rfl
  | error failure => exact .failed rfl rfl

/-- Every request that can be understood is answered by what the engine comes to. -/
theorem shows_answer {request : Request} {question : Question} (asks : Asks request question) :
    Shows (failureStatus question) report (answer engine request report)
      (engine.reply question) := by
  cases asks with
  | definition method path isJson fits decoded =>
    have route : Route.ofPath? (splitTarget request.target).1 = some .definition := by
      rw [path]
      rfl
    rw [answer_eq_route engine report route method, Route.answer, withBody_eq isJson fits decoded]
    exact shows_definition engine report _
  | output method path isJson fits decoded =>
    have route : Route.ofPath? (splitTarget request.target).1 = some .output := by
      rw [path]
      rfl
    rw [answer_eq_route engine report route method, Route.answer, withBody_eq isJson fits decoded]
    exact shows_output engine report _
  | tree method path decoded =>
    have route : Route.ofPath? (splitTarget request.target).1 = some .tree := by
      rw [path]
      rfl
    rw [answer_eq_route engine report route method, Route.answer]
    exact shows_tree engine report decoded

/-- The statuses tell what an engine comes to when it has called the oracle or read its output. -/
structure Classifies (report : Option String) (response : Response) (reply : Outcome Value) :
    Prop where
  answered : ∀ value, reply = .done value ↔
    response.status = 200 ∧ response.content = .json value
  failedCall : response.status = 502 ↔ ∃ failure exitCode, reply = .failed failure ∧
    failure.oracleError? = some (.failedCall exitCode)
  malformedOutput : response.status = 422 ↔ ∃ failure reason, reply = .failed failure ∧
    failure.oracleError? = some (.malformedOutput reason)
  otherwise : response.status = 400 ↔ ∃ failure, reply = .failed failure ∧
    failure.oracleError? = none
  broken : response.status = 500 ↔ reply = .broken
  told : ∀ failure, reply = .failed failure → response.Tells failure
  toldBroken : reply = .broken → response.TellsBroken report

variable {report}

theorem Shows.classifies {response : Response} {reply : Outcome Value}
    (shown : Shows statusOf report response reply) : Classifies report response reply := by
  cases shown with
  | done status content => constructor <;> simp [status, content, eq_comm]
  | @failed failure status tells =>
    unfold statusOf at status
    cases error : failure.oracleError? with
    | none =>
      rw [error] at status
      constructor <;> simp [status, error, tells]
    | some reason =>
      rw [error] at status
      cases reason <;> constructor <;> simp [status, error, tells]
  | broken status tells => constructor <;> simp [status, tells]

end Http

/-! ### Models -/

namespace Mcp

/-- What a model is told about what an engine comes to. -/
def Reply.ofOutcome (report : Option String) : Outcome Value → Reply
  | .done value => .result value
  | .failed failure => .toolError (": ".intercalate failure.chain)
  | .broken => .toolError (brokenMessage report)

theorem withArguments_eq {Asked : Type} {form : Json.Form Asked} {arguments : Value} {asked : Asked}
    (decoded : form.decode arguments.compact = .ok asked)
    (answer : Asked → Reply × List Command) :
    withArguments form arguments answer = answer asked := by
  rw [withArguments, decoded]

variable (engine : Engine) (report : Option String)

theorem answer_eq_call {parameters : Option Value} {call : ToolCall} {tool : Tool}
    (called : readParameters? ToolCall.form parameters = some call) (now : call.isTask = false)
    (name : call.name = tool.name) :
    answer engine "tools/call" parameters report =
      tool.call engine report (.object call.arguments) := by
  have known : Tool.ofName? tool.name = some tool := by cases tool <;> rfl
  simp only [answer, called, callTool, now, name, known, Bool.false_eq_true, if_false]

/-- Every tool call that can be understood is answered by what the engine comes to. -/
theorem answer_eq_ofOutcome {parameters : Option Value} {question : Question}
    (asks : Asks parameters question) :
    (answer engine "tools/call" parameters report).1 =
      .ofOutcome report (engine.reply question) := by
  cases asks with
  | @definition call asked called now name decoded =>
    have same : call.name = Tool.findDefinition.name := name
    rw [answer_eq_call engine report called now same, Tool.call, withArguments_eq decoded,
      engine.findWithCommands_eq, Engine.reply]
    cases engine.findDefinition asked <;> rfl
  | @output call asked called now name decoded =>
    have same : call.name = Tool.parseOutput.name := name
    rw [answer_eq_call engine report called now same, Tool.call, withArguments_eq decoded,
      Engine.reply]
    cases Engine.parseOutput asked <;> rfl
  | @tree call asked called now name decoded =>
    have same : call.name = Tool.navigatorTree.name := name
    rw [answer_eq_call engine report called now same, Tool.call, withArguments_eq decoded,
      Engine.reply]
    cases engine.tree asked.depth <;> rfl

end Mcp

/-! ### Asking -/

theorem areReadable_strings (texts : List String) :
    Json.AreReadableItems (texts.map Value.string) ∧
      Json.nestingOfItems (texts.map Value.string) = 0 := by
  induction texts with
  | nil => exact ⟨trivial, rfl⟩
  | cons text texts inductionHypothesis =>
    obtain ⟨readable, flat⟩ := inductionHypothesis
    exact ⟨⟨trivial, readable⟩, Nat.max_eq_zero_iff.mpr ⟨rfl, flat⟩⟩

/-- A request with JSON in its body. -/
def Http.Request.post (path : String) (document : String) : Http.Request :=
  ⟨"POST", path, [("Content-Type", "application/json; charset=utf-8")], Text.Utf8.encode document⟩

theorem Http.Request.hasJsonBody_post (path document : String) :
    (post path document).hasJsonBody = true := by
  show (post "" "").hasJsonBody = true
  decide +kernel

/-- Every definition can be asked for over HTTP, if the text of the request is not too long. -/
theorem Http.asks_definition {asked : DefinitionRequest} {document : String}
    (written : asked.toJson.IsWrittenAs document)
    (fits : (Text.Utf8.encode document).length ≤ longestBody) :
    Asks (.post "/definition" document) (.definition asked) := by
  have path : (splitTarget "/definition").1 = "/definition" := by decide
  have decoded : DefinitionRequest.form.decode document = .ok asked :=
    readsBack_of_makes DefinitionRequest.form_makes asked document written
  exact .definition rfl path (Request.hasJsonBody_post _ _) fits decoded

/-- All output can be interpreted over HTTP, if it is not too long. -/
theorem Http.asks_output {asked : OutputRequest} {document : String}
    (written : asked.toJson.IsWrittenAs document)
    (fits : (Text.Utf8.encode document).length ≤ longestBody) :
    Asks (.post "/definition/parse" document) (.output asked) := by
  have path : (splitTarget "/definition/parse").1 = "/definition/parse" := by decide
  have decoded : OutputRequest.form.decode document = .ok asked :=
    readsBack_of_makes OutputRequest.form_makes asked document written
  exact .output rfl path (Request.hasJsonBody_post _ _) fits decoded

/-- Members of different names all count. -/
theorem Json.lastOfEach_of_nodup {members : List (String × Value)}
    (distinct : (members.map Prod.fst).Nodup) : lastOfEach members = members := by
  induction members with
  | nil => rfl
  | cons member rest inductionHypothesis =>
    rw [List.map_cons, List.nodup_cons] at distinct
    have last : ¬ (rest.any fun later => later.1 = member.1) = true := by
      rw [List.any_eq_true]
      rintro ⟨later, inRest, same⟩
      exact distinct.1 (of_decide_eq_true same ▸ List.mem_map_of_mem inRest)
    rw [lastOfEach, if_neg last, inductionHypothesis distinct.2]

/-- A tool is called by its name and its arguments, of which those that are given again replace the
ones before. -/
theorem Mcp.readParameters?_call (name : String) {arguments : List (String × Value)}
    (readable : Json.AreReadableMembers arguments) (fits : Json.nestingOfMembers arguments < 126) :
    readParameters? ToolCall.form
      (some (.object [("name", .string name), ("arguments", .object arguments)])) =
        some ⟨name, Json.lastOfEach arguments, false⟩ := by
  have first : Json.Form.Takes ToolCall.fields 126 ("name", .string name) _ :=
    Json.Form.takes_known rfl (Json.Form.field_takes (makes_string _))
  have second : Json.Form.Takes ToolCall.fields 126 ("arguments", .object arguments) _ :=
    Json.Form.takes_known rfl (Json.Form.field_takes
      ((Json.Form.makes_object readable fits).optional Value.noConfusion))
  have makes : ToolCall.form.Makes Json.nestingLimit _
      (.ok ⟨name, Json.lastOfEach arguments, false⟩) :=
    Json.Form.makes_record_of_take (.cons first (.cons second .nil)) rfl rfl
  have plain : asParameters? (.object [("name", .string name), ("arguments", .object arguments)]) =
      some [("name", .string name), ("arguments", .object arguments)] := rfl
  simp only [readParameters?, Option.bind_eq_bind, Option.bind_some, plain,
    makes.decode (Value.isWrittenAs_compact _)]
  rfl

/-- A model can ask for every definition. -/
theorem Mcp.asks_definition (asked : DefinitionRequest) :
    Asks (some (.object [("name", .string "find_definition"), ("arguments", asked.toJson)]))
      (.definition asked) := by
  have makes : DefinitionRequest.form.Makes Json.nestingLimit _ _ := asked.form_makes
  obtain ⟨scope, flat⟩ := areReadable_strings asked.scope
  have offset : (Value.ofNat asked.offset.toNat).IsReadable := by
    have small := asked.offset.toNat_lt
    exact ⟨by omega, by exact_mod_cast small⟩
  have readable : Json.AreReadableMembers [("file", .string asked.file),
      ("offset", .ofNat asked.offset.toNat), ("scope", .list (asked.scope.map Value.string))] :=
    ⟨trivial, offset, scope, trivial⟩
  have fits : Json.nestingOfMembers [("file", .string asked.file),
      ("offset", .ofNat asked.offset.toNat), ("scope", .list (asked.scope.map Value.string))] <
        126 := by
    simp [Json.nestingOfMembers, Value.nesting, Value.ofNat, flat]
  have called := Mcp.readParameters?_call "find_definition" readable fits
  rw [Json.lastOfEach_of_nodup (by simp)] at called
  exact .definition called rfl rfl (makes.decode (Value.isWrittenAs_compact _))

/-! ### Both surfaces -/

/-- The layers around a failure do not count for its status. -/
theorem Http.statusOf_during (activity : Activity) (failure : Failure) :
    statusOf (failure.during activity) = statusOf failure := by
  rw [statusOf, Failure.oracleError?_during, statusOf]

/-- What is asked of the oracle has the status that its saved output has. -/
theorem Http.status_definition_eq_output (engine : Engine) (report : Option String)
    {asked : DefinitionRequest} {exitCode : Int32} {output errorOutput : String}
    (ended : engine.runner (engine.settings.command asked) = .done ⟨exitCode, output, errorOutput⟩)
    {run saved : Request} (runAsks : Asks run (.definition asked))
    (savedAsks : Asks saved (.output ⟨output, exitCode⟩)) :
    (answer engine run report).status = (answer engine saved report).status := by
  have runShows := shows_answer engine report runAsks
  have savedShows := shows_answer engine report savedAsks
  rw [Engine.reply, engine.findDefinition_eq_conclude, ended, Settings.conclude_done] at runShows
  rw [Engine.reply] at savedShows
  cases parsed : Engine.parseOutput ⟨output, exitCode⟩ with
  | ok answer =>
    rw [parsed] at runShows savedShows
    cases runShows with | done runStatus => cases savedShows with | done savedStatus =>
      rw [runStatus, savedStatus]
  | error failure =>
    rw [parsed] at runShows savedShows
    cases runShows with | failed runStatus => cases savedShows with | failed savedStatus =>
      rw [runStatus, savedStatus]
      exact statusOf_during _ _

/-- An oracle that cannot be run has the status of the reason alone. -/
theorem Http.status_definition_of_failed (engine : Engine) (report : Option String)
    {asked : DefinitionRequest} {failure : Failure}
    (ended : engine.runner (engine.settings.command asked) = .failed failure)
    {request : Request} (asks : Asks request (.definition asked)) :
    (answer engine request report).status = statusOf failure := by
  have shown := shows_answer engine report asks
  rw [Engine.reply, engine.findDefinition_eq_conclude, ended] at shown
  cases shown with
  | failed status => exact status

theorem Http.status_definition_of_broken (engine : Engine) (report : Option String)
    {asked : DefinitionRequest} (ended : engine.runner (engine.settings.command asked) = .broken) {request : Request}
    (asks : Asks request (.definition asked)) : (answer engine request report).status = 500 := by
  have shown := shows_answer engine report asks
  rw [Engine.reply, engine.findDefinition_eq_conclude, ended] at shown
  cases shown with
  | broken status => exact status

/-- Both surfaces show what the engine comes to.

Over HTTP a result has the status 200 and is given as it is. A failure is told with all its layers,
and its status is 502 just if the oracle failed, 422 just if its output makes no sense and 400 for
any other failure; 500 means that the call broke down, and goes with the report of that, whatever it
is. This holds for finding a definition and for interpreting output. A tree is given with the status
200, and why there is none is told with 500; it is the tree of a workspace whose levels come to an
end.

A model is given the same results and told the same texts.

The layers that finding a definition puts around a failure do not change the status: it is the one
that the output of the oracle has when it is interpreted, or the one of the reason why the oracle
could not be run. -/
theorem surfaces_show_engine (engine : Engine) (report : Option String) :
    (∀ request question, Http.Asks request question → (∀ depth, question ≠ .tree depth) →
      Http.Classifies report (Http.answer engine request report) (engine.reply question)) ∧
    (∀ request depth, Http.Asks request (.tree depth) →
      (engine.model.Finishes depth → engine.tree? depth = some (engine.tree depth)) ∧
      (∀ tree, engine.tree depth = .ok tree → (Http.answer engine request report).status = 200 ∧
        (Http.answer engine request report).content = .json tree.toJson) ∧
      ∀ failure, engine.tree depth = .error failure →
        (Http.answer engine request report).status = 500 ∧
        (Http.answer engine request report).Tells failure) ∧
    (∀ parameters question, Mcp.Asks parameters question →
      (∀ value, engine.reply question = .done value ↔
        (Mcp.answer engine "tools/call" parameters report).1 = .result value) ∧
      (∀ failure, engine.reply question = .failed failure →
        (Mcp.answer engine "tools/call" parameters report).1 =
          .toolError (": ".intercalate failure.chain)) ∧
      (engine.reply question = .broken →
        (Mcp.answer engine "tools/call" parameters report).1 =
          .toolError (brokenMessage report))) ∧
    (∀ request parameters question, Http.Asks request question → Mcp.Asks parameters question →
      (∃ value, (Http.answer engine request report).status = 200 ∧
        (Http.answer engine request report).content = .json value ∧
        (Mcp.answer engine "tools/call" parameters report).1 = .result value) ∨
      ∃ text, (Http.answer engine request report).status ≠ 200 ∧
        (Http.answer engine request report).content = .json (.object [("error", .string text)]) ∧
        (Mcp.answer engine "tools/call" parameters report).1 = .toolError text) ∧
    ∀ request asked, Http.Asks request (.definition asked) →
      (∀ exitCode output errorOutput saved,
        engine.runner (engine.settings.command asked) = .done ⟨exitCode, output, errorOutput⟩ →
        Http.Asks saved (.output ⟨output, exitCode⟩) →
        (Http.answer engine request report).status = (Http.answer engine saved report).status) ∧
      (∀ failure, engine.runner (engine.settings.command asked) = .failed failure →
        failure.oracleError? = none → (Http.answer engine request report).status = 400) ∧
      (engine.runner (engine.settings.command asked) = .broken →
        (Http.answer engine request report).status = 500) := by
  refine ⟨fun request question asks noTree => ?_, fun request depth asks => ?_,
    fun parameters question asks => ?_, fun request parameters question asks told => ?_,
    fun request asked asks => ⟨fun exitCode output errorOutput saved ended savedAsks =>
      Http.status_definition_eq_output engine report ended asks savedAsks,
      fun failure ended foreign => ?_,
      fun ended => Http.status_definition_of_broken engine report ended asks⟩⟩
  · have shown := Http.shows_answer engine report asks
    cases question with
    | tree depth => exact (noTree depth rfl).elim
    | definition | output => exact shown.classifies
  · have shown := Http.shows_answer engine report asks
    rw [Engine.reply] at shown
    refine ⟨Engine.tree?_of_finishes, fun tree made => ?_, fun failure refused => ?_⟩
    · rw [made] at shown
      cases shown with
      | done status content => exact ⟨status, content⟩
    · rw [refused] at shown
      cases shown with
      | failed status tells => exact ⟨status, tells⟩
  · rw [Mcp.answer_eq_ofOutcome engine report asks]
    cases engine.reply question <;> simp [Mcp.Reply.ofOutcome]
  · rw [Mcp.answer_eq_ofOutcome engine report told]
    have shown := Http.shows_answer engine report asks
    cases reply : engine.reply question with
    | done value =>
      rw [reply] at shown
      cases shown with
      | done status content => exact Or.inl ⟨value, status, content, rfl⟩
    | failed failure =>
      rw [reply] at shown
      cases shown with
      | failed status tells =>
        exact Or.inr ⟨_, status.trans_ne (Http.failureStatus_ne question failure), tells, rfl⟩
    | broken =>
      rw [reply] at shown
      cases shown with
      | broken status tells => exact Or.inr ⟨_, status.trans_ne (by decide), tells, rfl⟩
  · rw [Http.status_definition_of_failed engine report ended asks, Http.statusOf, foreign]

/-- The oracle fails when it has one package to look at, cannot be started when it has two, and finds
a location in three. With four packages the call breaks down. The projects cannot be listed. -/
theorem surfaces_show_engine_of_oracle :
    let output := "\x7b\"describe\": \x7b\"desc\": \"identifier\", \"value\": " ++
      "\x7b\"objpos\": \"/w/foo.go:3:2\"\x7d\x7d\x7d"
    let runner : Runner := fun command =>
      if command.arguments.length = 4 then .done ⟨2, "", "usage"⟩
      else if command.arguments.length = 5 then .failed (.of (.system .noSuchFile))
      else if command.arguments.length = 6 then .done ⟨0, output, ""⟩
      else .broken
    let engine : Engine := ⟨.standard, runner, ⟨.error (.of (.system .permissionDenied)),
      fun _ => false, fun _ _ => .ok [], fun _ => .ok [], fun _ => []⟩⟩
    let asked (scope : List String) : DefinitionRequest := ⟨"foo.go", 7, scope⟩
    let request (scope : List String) : Http.Request :=
      .post "/definition" (asked scope).toJson.compact
    let parameters (scope : List String) : Option Value :=
      some (.object [("name", .string "find_definition"), ("arguments", (asked scope).toJson)])
    let saved : Http.Request := .post "/definition/parse" (OutputRequest.toJson ⟨"", 2⟩).compact
    let listing : Http.Request := ⟨"GET", "/tree?depth=3", [], []⟩
    let report := some "task 7 panicked"
    let text := "Find definition failed at ./foo.go:#7: Program exited with non-zero status: 2"
    let place : Value :=
      .object [("path", .string "/w/foo.go"), ("line", .ofNat 3), ("column", .ofNat 2)]
    let found : Value :=
      .object [("kind", .string "location"), ("location", place), ("message", .null)]
    (∀ scope ∈ [[], ["a", "b"], ["a", "b", "c"], ["a", "b", "c", "d"]],
      Http.Asks (request scope) (.definition (asked scope)) ∧
      Mcp.Asks (parameters scope) (.definition (asked scope))) ∧
    Http.Asks saved (.output ⟨"", 2⟩) ∧ Http.Asks listing (.tree (some 3)) ∧
    (Http.answer engine (request []) report).status = 502 ∧
    (Http.answer engine (request []) report).content =
      .json (.object [("error", .string text)]) ∧
    (Mcp.answer engine "tools/call" (parameters []) report).1 = .toolError text ∧
    (Http.answer engine saved report).status = 502 ∧
    (Http.answer engine (request ["a", "b"]) report).status = 400 ∧
    (Http.answer engine (request ["a", "b", "c"]) report).status = 200 ∧
    (Http.answer engine (request ["a", "b", "c"]) report).content = .json found ∧
    (Mcp.answer engine "tools/call" (parameters ["a", "b", "c"]) report).1 = .result found ∧
    (Http.answer engine (request ["a", "b", "c", "d"]) report).status = 500 ∧
    (Http.answer engine (request ["a", "b", "c", "d"]) report).content =
      .json (.object [("error", .string "task join error: task 7 panicked")]) ∧
    (Mcp.answer engine "tools/call" (parameters ["a", "b", "c", "d"]) report).1 =
      .toolError "task join error: task 7 panicked" ∧
    (Http.answer engine listing report).status = 500 := by
  intro output runner engine asked request parameters saved listing report text place found
  have modelAsks (scope : List String) :
      Mcp.Asks (parameters scope) (.definition (asked scope)) :=
    Mcp.asks_definition (asked scope)
  have asks : ∀ scope ∈ [[], ["a", "b"], ["a", "b", "c"], ["a", "b", "c", "d"]],
      Http.Asks (request scope) (.definition (asked scope)) := by
    intro scope member
    refine Http.asks_definition (Value.isWrittenAs_compact _) ?_
    revert scope
    decide +kernel
  have savedAsks : Http.Asks saved (.output ⟨"", 2⟩) :=
    Http.asks_output (Value.isWrittenAs_compact _) (by decide +kernel)
  have treeAsks : Http.Asks listing (.tree (some 3)) := .tree rfl (by decide) (by decide)
  have noTree (scope : List String) (depth : Option Nat) :
      Question.definition (asked scope) ≠ .tree depth := nofun
  obtain ⟨table, trees, models, _, contexts⟩ := surfaces_show_engine engine report
  have failing := asks [] (by simp)
  have crowded := asks ["a", "b"] (by simp)
  have finding := asks ["a", "b", "c"] (by simp)
  have breaking := asks ["a", "b", "c", "d"] (by simp)
  let failure : Failure := (Failure.of (.oracle (.failedCall 2))).during
    (.findingDefinition (engine.settings.resolve "foo.go") 7)
  have failed : engine.reply (.definition (asked [])) = .failed failure := rfl
  have message : ": ".intercalate failure.chain = text := by decide
  have classified := table _ _ failing (noTree _)
  have status := classified.failedCall.mpr ⟨failure, 2, failed, rfl⟩
  have content := classified.told failure failed
  have toolError := (models _ _ (modelAsks [])).2.1 failure failed
  rw [Http.Response.Tells, message] at content
  rw [message] at toolError
  have read : Finding.ofOutput output 0 = .ok (.location ⟨⟨"/w/foo.go"⟩, 3, 2⟩) := by
    decide +kernel
  have located : engine.reply (.definition (asked ["a", "b", "c"])) = .done found := by
    have ended : engine.runner (engine.settings.command (asked ["a", "b", "c"])) =
        .done ⟨0, output, ""⟩ := rfl
    rw [Engine.reply, engine.findDefinition_eq_conclude, ended, Settings.conclude_done,
      Engine.parseOutput, read]
    rfl
  have broken : engine.reply (.definition (asked ["a", "b", "c", "d"])) = .broken := rfl
  have shown := ((table _ _ finding (noTree _)).answered found).mp located
  have breaks := table _ _ breaking (noTree _)
  obtain ⟨finished, _, _⟩ := contexts _ _ failing
  obtain ⟨_, notStarted, _⟩ := contexts _ _ crowded
  exact ⟨fun scope member => ⟨asks scope member, modelAsks scope⟩, savedAsks, treeAsks, status,
    content, toolError, (finished 2 "" "usage" saved rfl savedAsks).symm.trans status,
    notStarted _ rfl rfl, shown.1, shown.2, ((models _ _ (modelAsks _)).1 found).mp located,
    breaks.broken.mpr broken, breaks.toldBroken broken,
    (models _ _ (modelAsks _)).2.2 broken, ((trees listing _ treeAsks).2.2 _ rfl).1⟩

end CodeNavigator
