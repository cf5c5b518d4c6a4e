/-
This file defines shell scripts. A script is a tree of commands, and a command has words, which are
rows of pieces: text that is meant as it stands, and expansions, whose values are found when the
script runs. The text of a here-document stands below the line that asks for it, so a script holds
only the number of the document.
-/

import CodeNavigator.Machine.Basic

namespace CodeNavigator.Shell

/-- How the absence of a value is met: another text takes its place, is also assigned, or is the
complaint; or the text takes the place of a value that is there. -/
inductive Remedy
  | fallback
  | assignment
  | demand
  | alternative
deriving DecidableEq

/-- Where a pattern is looked for when it is replaced. -/
inductive Extent
  | first
  | all
  | beginning
  | ending
deriving DecidableEq

mutual

/-- A piece of a word. Quotes leave a piece of their own, which makes a field even of no text. -/
inductive Piece
  | text (isQuoted : Bool) (text : ByteText)
  | quotes
  | parameter (isQuoted : Bool) (name : ByteText) (index : Option (List Piece)) (use : Use)
  | output (isQuoted : Bool) (script : Script)
  | arithmetic (isQuoted : Bool) (expression : List Piece)

/-- What is made of the value of a parameter. -/
inductive Use
  | value
  | length
  | names
  | indirect
  | missing (remedy : Remedy) (countsEmpty : Bool) (word : List Piece)
  | cut (isEnding isLongest : Bool) (pattern : List Piece)
  | replace (extent : Extent) (pattern word : List Piece)
  | slice (start : List Piece) (length : Option (List Piece))
  | recase (isUpper isWhole : Bool)
  | invalid

/-- Where a descriptor is led. -/
inductive Redirection
  | file (descriptor : Nat) (purpose : Job.Purpose) (target : List Piece)
  | copy (descriptor : Nat) (source : List Piece)
  | document (descriptor : Nat) (index : Nat)
  | line (descriptor : Nat) (word : List Piece)

/-- A value for a variable: a text, which may go behind the old value or to one element, or all the
elements of a list. -/
inductive Assignment
  | text (name : ByteText) (index : Option (List Piece)) (isAppending : Bool) (value : List Piece)
  | list (name : ByteText) (isAppending : Bool) (values : List (List Piece))

/-- A script. Most commands know the line they stand on. -/
inductive Script
  | nothing
  | simple (line : Nat) (assignments : List Assignment) (words : List (List Piece))
      (redirections : List Redirection)
  | pipeline (parts : List Script)
  | background (line : Nat) (body : Script)
  | negation (body : Script)
  | conjunction (first second : Script)
  | disjunction (first second : Script)
  | sequence (first second : Script)
  | redirected (line : Nat) (body : Script) (redirections : List Redirection)
  | subshell (line : Nat) (body : Script) (redirections : List Redirection)
  | branch (condition consequence alternative : Script)
  | loop (isUntil : Bool) (condition body : Script)
  | each (line : Nat) (name : ByteText) (words : List (List Piece)) (body : Script)
  | count (line : Nat) (start condition step : List Piece) (body : Script)
  | select (line : Nat) (word : List Piece) (cases : List (List (List Piece) × Script × Bool))
  | define (line : Nat) (name : ByteText) (body : Script)
  | condition (line : Nat) (words : List (List Piece))
  | computation (line : Nat) (expression : List Piece)

end

instance : Inhabited Script :=
  ⟨.nothing⟩

/-- How many processes a script is that runs in the background. -/
def Script.partCount : Script → Nat
  | .pipeline parts => parts.length
  | _ => 1

/-- A row of pieces that stands for some text. -/
abbrev Word := List Piece

/-- The text below a script that one of its commands reads. -/
abbrev Document := List Piece

namespace Word

/-- Put more text at the end of a row of pieces that is kept backwards. -/
def addText (isQuoted : Bool) (text : ByteText) : List Piece → List Piece
  | .text wasQuoted before :: pieces =>
    if wasQuoted = isQuoted then .text isQuoted (before ++ text) :: pieces
    else .text isQuoted text :: .text wasQuoted before :: pieces
  | pieces => .text isQuoted text :: pieces

/-- The text of a word that has neither quotes nor expansions. -/
def plain? : Word → Option ByteText
  | [] => some []
  | [.text false text] => some text
  | _ => none

end Word

/-! ### Names -/

def isNameStart (character : Char) : Bool :=
  character.isAlpha || character = '_'

def isNameCharacter (character : Char) : Bool :=
  character.isAlphanum || character = '_'

/-- Whether a text is the name of a variable. -/
def isName (text : ByteText) : Bool :=
  (text.head?.map isNameStart).getD false && text.all isNameCharacter

/-! ### Faults -/

/-- Why a text is no script. -/
inductive Fault
  | unexpected (found : String) (expected : Option String)
  | openQuotes (mark : Char)
  | openBrace
  | openArithmetic
  | openBackquotes
  | badLoopVariable (name : ByteText)
  | badFunctionName (name : ByteText)
  | tooDeep
deriving DecidableEq

/-- How a token is called in a complaint. -/
def tokenTitle (token : String) : String :=
  if ["end of file", "newline", "redirection", "word"].contains token then token
  else "\"" ++ token ++ "\""

/-- How long the complaint about a token may be. -/
def complaintLength : Nat := 63

def Fault.message : Fault → String
  | .unexpected found none => tokenTitle found ++ " unexpected"
  | .unexpected found (some expected) =>
    String.ofList ((tokenTitle found ++ " unexpected (expecting " ++ tokenTitle expected ++
      ")").toList.take complaintLength)
  | .openQuotes _ => "Unterminated quoted string"
  | .openBrace => "Missing '\x7d'"
  | .openArithmetic => "Missing '))'"
  | .openBackquotes => "EOF in backquote substitution"
  | .badLoopVariable _ => "Bad for loop variable"
  | .badFunctionName _ => "Bad function name"
  | .tooDeep => "Script too deep"

end CodeNavigator.Shell
