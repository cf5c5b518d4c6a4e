/-
This file defines the answer to a request for a definition, in the form in which it is sent to
other programs: a kind, and a location or a message where the kind has one. An answer that comes
from elsewhere may hold any combination of the three; its text is then decided by the kind first.
-/

import CodeNavigator.Definition.Finding

namespace CodeNavigator

/-- The kinds of answers. -/
inductive AnswerKind
  | empty
  | location
  | softFailure
deriving DecidableEq

def AnswerKind.name : AnswerKind → String
  | .empty => "empty"
  | .location => "location"
  | .softFailure => "soft_failure"

/-- An answer to a request for a definition. -/
structure Answer where
  kind : AnswerKind
  location : Option SourceLocation
  message : Option String
deriving DecidableEq

namespace Answer

/-- The answer that says where a position leads. -/
def ofFinding : Finding → Answer
  | .nowhere => ⟨.empty, none, none⟩
  | .location location => ⟨.location, some location, none⟩
  | .explained explanation => ⟨.softFailure, none, some explanation.message⟩

/-- What is shown when there is nothing to go to. -/
def nothingMessage : String :=
  "Nothing to navigate to: the position is a source file reference."

/-- The answer as a text for people. -/
def render (answer : Answer) : String :=
  match answer with
  | ⟨.location, some location, _⟩ => location.render
  | ⟨.softFailure, _, some message⟩ => message
  | _ => nothingMessage

end Answer

end CodeNavigator
