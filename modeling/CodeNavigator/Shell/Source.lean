/-
This file defines the state in which a script is read, and the steps of reading that look at single
characters. A script is read one command at a time, so a fault in a later line does no harm to what
stands before it. A backslash at the end of a line joins the line to the next one.
-/

import CodeNavigator.Shell.Script

namespace CodeNavigator.Shell

/-- What a script is made of. A word that begins a command may be a keyword. -/
inductive Token
  | ended
  | newline
  | symbol (name : String)
  | redirection (make : Word → List Redirection)
  | document (descriptor : Nat) (dropsTabs : Bool)
  | word (word : Word)
  | keyword (name : String)

/-- How a token is known in complaints. -/
def Token.name : Token → String
  | .ended => "end of file"
  | .newline => "newline"
  | .symbol name => name
  | .keyword name => name
  | .redirection _ | .document _ _ => "redirection"
  | .word _ => "word"

/-- A here-document whose text has not been reached yet. -/
structure AwaitedDocument where
  index : Nat
  delimiter : ByteText
  dropsTabs : Bool
  isLiteral : Bool

/-- What is left of a script, and what was found out on the way. Short names that stand for other
text are in use as long as more is left than was left behind them. -/
structure Source where
  rest : ByteText
  line : Nat
  hasExtras : Bool
  pushedBack : Option Token
  awaited : List AwaitedDocument
  documents : Array Document
  aliases : List (ByteText × ByteText)
  aliasesInUse : List (ByteText × Nat)
  aliasNextBelow : Option Nat

/-- A step of reading. -/
abbrev Reading := ExceptT Fault (StateM Source)

/-- Repeat a step at most so many times, until it has a result. -/
def repeatUntilDone {σ α : Type} (step : σ → Reading (Sum σ α)) : Nat → σ → Reading α
  | 0, _ => throw .tooDeep
  | limit + 1, state => do
    match ← step state with
    | .inl next => repeatUntilDone step limit next
    | .inr result => pure result

/-- How many more steps short names may ask for. -/
def aliasAllowance : Nat := 10000

/-- Repeat a step as long as a script can have something for it. -/
def repeatReading {σ α : Type} (start : σ) (step : σ → Reading (Sum σ α)) : Reading α := do
  let source ← get
  let allowance := if source.aliases.isEmpty then 2 else aliasAllowance
  repeatUntilDone step (source.rest.length + allowance) start

/-! ### Characters -/

/-- Leave characters out. -/
def drop (count : Nat) : Reading Unit :=
  modify fun source => { source with rest := source.rest.drop count }

/-- Count a line end. -/
def countLine : Reading Unit :=
  modify fun source => { source with line := source.line + 1 }

/-- A text without the joints of lines at its beginning, and how many these were. -/
def withoutJoints : ByteText → Nat × ByteText
  | '\\' :: '\n' :: rest =>
    let (count, after) := withoutJoints rest
    (count + 1, after)
  | text => (0, text)

/-- Leave out the joints of lines. -/
def skipJoints : Reading Unit :=
  modify fun source =>
    let (count, rest) := withoutJoints source.rest
    { source with rest := rest, line := source.line + count }

/-- The next character, joints of lines left out. -/
def peek : Reading (Option Char) := do
  skipJoints
  pure (← get).rest.head?

/-- Leave out a character if it comes next. -/
def accept (character : Char) : Reading Bool := do
  if (← peek) = some character then
    drop 1
    pure true
  else pure false

/-- Take characters as long as they are of some kind, joints of lines left out. -/
def takeWhile (isTaken : Char → Bool) : Reading ByteText :=
  repeatReading [] fun taken => do
    match ← peek with
    | some character =>
      if isTaken character then
        drop 1
        pure (.inl (character :: taken))
      else pure (.inr taken.reverse)
    | none => pure (.inr taken.reverse)

/-- Read what another text holds as if it stood here. -/
def readInstead {α : Type} (text : ByteText) (line : Nat) (body : Reading α) : Reading α := do
  let before ← get
  set { before with
    rest := text, line := line, pushedBack := none, awaited := [], aliasesInUse := [],
    aliasNextBelow := none }
  let result ← body
  modify fun after => { before with documents := after.documents }
  pure result

end CodeNavigator.Shell
