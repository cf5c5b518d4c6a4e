/-
This file compares the two ways to the meaning of the oracle's output: running the oracle, and
interpreting output that was saved. A request runs one command, whatever running a command involves,
and what it comes to is a function of how that command ends. A command that finishes means what its
output means when it is saved, and a failure only has more around it: the error of the oracle stays
the same, and every layer stands in front of the message.
-/

import CodeNavigator.Engine

namespace CodeNavigator

/-! ### Layers around a failure -/

namespace Failure

@[simp]
theorem oracleError?_during (activity : Activity) (failure : Failure) :
    (failure.during activity).oracleError? = failure.oracleError? :=
  rfl

theorem exists_chain_eq (failure : Failure) : ∃ first rest, failure.chain = first :: rest :=
  List.exists_cons_of_ne_nil (List.append_ne_nil_of_right_ne_nil _ (List.cons_ne_nil _ _))

/-- A layer stands in front of the message. -/
theorem message_during (activity : Activity) (failure : Failure) :
    (failure.during activity).message = activity.message ++ ": " ++ failure.message := by
  obtain ⟨first, rest, chain⟩ := failure.exists_chain_eq
  have longer : (failure.during activity).chain = activity.message :: first :: rest := by
    rw [← chain]
    rfl
  rw [message, message, longer, chain, String.intercalate_cons_cons]

end Failure

/-! ### One command -/

namespace Settings

variable (settings : Settings) (request : DefinitionRequest)

/-- What a request comes to when its command ends in some way. -/
def conclude (outcome : Outcome Finished) : Outcome Answer :=
  match (settings.command request).interpret outcome with
  | .done finding => .done (.ofFinding finding)
  | .failed failure =>
    .failed (failure.during (.findingDefinition (settings.resolve request.file) request.offset))
  | .broken => .broken

/-- A request runs its command and nothing else, and concludes from how that ends. -/
theorem findDefinition_eq_map {Effect : Type → Type} [Monad Effect] [LawfulMonad Effect]
    (run : Command → Effect (Outcome Finished)) :
    settings.findDefinition run request =
      settings.conclude request <$> run (settings.command request) := by
  rw [findDefinition, Command.ask, bind_assoc, map_eq_pure_bind]
  refine bind_congr fun outcome => ?_
  rw [pure_bind, conclude]
  cases (settings.command request).interpret outcome <;> rfl

/-- A command that finishes means what its saved output means. -/
theorem conclude_done (exitCode : Int32) (output errorOutput : String) :
    settings.conclude request (.done ⟨exitCode, output, errorOutput⟩) =
      match Engine.parseOutput ⟨output, exitCode⟩ with
      | .ok answer => .done answer
      | .error failure => .failed
          (failure.during (.findingDefinition (settings.resolve request.file) request.offset)) := by
  simp only [conclude, Command.interpret, Engine.parseOutput]
  cases Finding.ofOutput output exitCode <;> rfl

end Settings

namespace Engine

theorem findDefinition_eq_conclude (engine : Engine) (request : DefinitionRequest) :
    engine.findDefinition request =
      engine.settings.conclude request (engine.runner (engine.settings.command request)) := by
  rw [findDefinition, Settings.findDefinition_eq_map]
  rfl

/-- A request runs its command and nothing else. -/
theorem findWithCommands_eq (engine : Engine) (request : DefinitionRequest) :
    engine.findWithCommands request =
      (engine.findDefinition request, [engine.settings.command request]) := by
  rw [findWithCommands, Settings.findDefinition_eq_map, findDefinition_eq_conclude]
  rfl

theorem exists_oracleError_of_parseOutput {request : OutputRequest} {failure : Failure}
    (refused : parseOutput request = .error failure) :
    ∃ error, failure.oracleError? = some error := by
  rw [parseOutput] at refused
  split at refused
  · cases refused
  · cases refused
    exact ⟨_, rfl⟩

end Engine

/-! ### Running and saving -/

/-- Running the oracle and interpreting its saved output agree.

A request runs exactly the command of the file that it means, and nothing else of the run counts but
how that command ends. If it finishes, the request is answered exactly if its output would be, with
the same answer; otherwise the oracle's error is the same and the message only has the position in
front. What the oracle writes to its error output does not count. If the command cannot be run for a
reason that is not the oracle's, no error of the oracle is behind the failure, and the message has the
position and the program in front. -/
theorem findDefinition_agrees_with_parseOutput (engine : Engine) (request : DefinitionRequest) :
    let file := engine.settings.resolve request.file
    let command := Command.describe engine.settings.oracle engine.settings.gopath file
      request.offset request.scope
    let context := "Find definition failed at " ++ file.text ++ ":#" ++
      toString request.offset.toNat ++ ": "
    (∀ (Effect : Type → Type) [Monad Effect] [LawfulMonad Effect]
        (run : Command → Effect (Outcome Finished)),
      engine.settings.findDefinition run request =
        (fun outcome => Engine.findDefinition { engine with runner := fun _ => outcome } request) <$>
          run command) ∧
    engine.findWithCommands request = (engine.findDefinition request, [command]) ∧
    (∀ exitCode output errorOutput,
      engine.runner command = .done ⟨exitCode, output, errorOutput⟩ →
        (∀ answer, engine.findDefinition request = .done answer ↔
          Engine.parseOutput ⟨output, exitCode⟩ = .ok answer) ∧
        (∀ failure, Engine.parseOutput ⟨output, exitCode⟩ = .error failure →
          ∃ wrapped error, engine.findDefinition request = .failed wrapped ∧
            failure.oracleError? = some error ∧ wrapped.oracleError? = some error ∧
            wrapped.message = context ++ failure.message) ∧
        ∀ (runner : Runner) (otherOutput : String),
          runner command = .done ⟨exitCode, output, otherOutput⟩ →
            Engine.findDefinition { engine with runner := runner } request =
              engine.findDefinition request) ∧
    ∀ failure, engine.runner command = .failed failure → failure.oracleError? = none →
      ∃ wrapped, engine.findDefinition request = .failed wrapped ∧ wrapped.oracleError? = none ∧
        wrapped.message = context ++
          ("Failed to run oracle: " ++ engine.settings.oracle.text ++ ": " ++ failure.message) := by
  intro file command context
  have concluded (runner : Runner) :=
    Engine.findDefinition_eq_conclude { engine with runner := runner } request
  refine ⟨fun Effect _ _ run => ?_, ?_, fun exitCode output errorOutput ended => ?_,
    fun failure ended foreign => ?_⟩
  · have same : (fun outcome => Engine.findDefinition { engine with runner := fun _ => outcome }
        request) = engine.settings.conclude request :=
      funext fun outcome => concluded fun _ => outcome
    rw [same]
    exact engine.settings.findDefinition_eq_map request run
  · rw [Engine.findWithCommands, Settings.findDefinition_eq_map, Engine.findDefinition_eq_conclude]
    rfl
  · have answered : engine.findDefinition request = _ :=
      (concluded engine.runner).trans ((congrArg _ ended).trans
        (engine.settings.conclude_done request exitCode output errorOutput))
    refine ⟨fun answer => ?_, fun failure refused => ?_, fun runner otherOutput otherwise => ?_⟩
    · rw [answered]
      cases Engine.parseOutput ⟨output, exitCode⟩ <;> simp
    · obtain ⟨error, cause⟩ := Engine.exists_oracleError_of_parseOutput refused
      rw [refused] at answered
      refine ⟨_, error, answered, cause, ?_, ?_⟩
      · rw [Failure.oracleError?_during, cause]
      · rw [Failure.message_during]
        rfl
    · rw [answered]
      exact (concluded runner).trans ((congrArg _ otherwise).trans
        (engine.settings.conclude_done request exitCode output otherOutput))
  · have answered : engine.findDefinition request = _ :=
      (concluded engine.runner).trans (congrArg _ ended)
    refine ⟨_, answered, ?_, ?_⟩
    · rw [Failure.oracleError?_during, Failure.oracleError?_during, foreign]
    · rw [Failure.message_during, Failure.message_during]
      rfl

/-- An oracle that ends badly with good output when it has one package to look at, and cannot be
started when it has more. -/
theorem findDefinition_agrees_with_parseOutput_of_failed_call :
    let output := "\x7b\"describe\": \x7b\"desc\": \"source file\"\x7d\x7d"
    let runner (errorOutput : String) : Runner := fun command =>
      if command.arguments.length = 4 then .done ⟨2, output, errorOutput⟩
      else .failed (.of (.system .noSuchFile))
    let engine : Engine := ⟨.standard, runner "usage", ⟨.ok [], fun _ => false,
      fun _ _ => .ok [], fun _ => .ok [], fun _ => []⟩⟩
    (∃ wrapped, engine.findDefinition ⟨"foo.go", 7, []⟩ = .failed wrapped ∧
      wrapped.oracleError? = some (.failedCall 2) ∧
      wrapped.message =
        "Find definition failed at ./foo.go:#7: Program exited with non-zero status: 2") ∧
    Engine.findDefinition { engine with runner := runner "" } ⟨"foo.go", 7, []⟩ =
      engine.findDefinition ⟨"foo.go", 7, []⟩ ∧
    ∃ wrapped, engine.findDefinition ⟨"foo.go", 7, ["a", "b"]⟩ = .failed wrapped ∧
      wrapped.oracleError? = none ∧
      wrapped.message = "Find definition failed at ./foo.go:#7: Failed to run oracle: oracle: " ++
        "No such file or directory (os error 2)" := by
  intro output runner engine
  obtain ⟨_, _, finished, _⟩ := findDefinition_agrees_with_parseOutput engine ⟨"foo.go", 7, []⟩
  obtain ⟨_, refused, silent⟩ := finished 2 output "usage" rfl
  obtain ⟨wrapped, error, failed, cause, same, message⟩ :=
    refused (.of (.oracle (.failedCall 2))) rfl
  obtain ⟨_, _, _, notStarted⟩ :=
    findDefinition_agrees_with_parseOutput engine ⟨"foo.go", 7, ["a", "b"]⟩
  obtain ⟨other, otherFailed, foreign, otherMessage⟩ := notStarted _ rfl rfl
  refine ⟨⟨wrapped, failed, same.trans cause.symm, ?_⟩, silent (runner "") "" rfl,
    other, otherFailed, foreign, ?_⟩
  · rw [message]
    decide
  · rw [otherMessage]
    decide

end CodeNavigator
