/-
This file decides conditions in double brackets. Their words are read before any of them is expanded,
so what stands behind a conjunction or a disjunction is looked at only if it matters. The right side
of a comparison is a pattern, and words are not divided.
-/

import CodeNavigator.Shell.Condition
import CodeNavigator.Shell.Interpreter
import CodeNavigator.Text.RegularExpression

namespace CodeNavigator.Shell

/-- A condition in double brackets. -/
inductive Clause
  | single (word : Word)
  | unary (name : ByteText) (operand : Word)
  | binary (left : Word) (name : ByteText) (right : Word)
  | negation (clause : Clause)
  | both (first second : Clause)
  | either (first second : Clause)

namespace Clause

/-! ### Reading -/

/-- How tightly the parts of a condition hold together. -/
inductive Rank
  | disjunction
  | conjunction
  | primary

/-- Reading the words of a condition. -/
abbrev Reading := StateT (List Word) Option

/-- Whether a word is one that has a meaning of its own. -/
def is (text : String) (word : Word) : Bool :=
  Word.plain? word = some text.toList

/-- The names that stand between two words. -/
def comparisons : List String :=
  ["=", "==", "!=", "=~", "<", ">", "-eq", "-ne", "-lt", "-le", "-gt", "-ge", "-nt", "-ot", "-ef"]

/-- The name of an operator that a word is. -/
def operator? (names : List String) (word : Word) : Option ByteText := do
  let text ← Word.plain? word
  if names.any fun name => name.toList = text then some text else none

/-- Read a condition about one word or two, or one in parentheses. -/
def readPrimary (inner : Rank → Reading Clause) : Reading Clause := do
  match ← get with
  | [] => failure
  | first :: rest =>
    set rest
    if is "(" first then
      let clause ← inner .disjunction
      match ← get with
      | closing :: after =>
        if is ")" closing then
          set after
          pure clause
        else failure
      | [] => failure
    else if is "!" first && !rest.isEmpty then .negation <$> inner .primary
    else
      match rest with
      | name :: right :: after =>
        match operator? comparisons name with
        | some name =>
          set after
          pure (.binary first name right)
        | none =>
          match operator? ("-o" :: Condition.unaryNames) first with
          | some unaryName =>
            set (right :: after)
            pure (.unary unaryName name)
          | none => pure (.single first)
      | [operand] =>
        match operator? ("-o" :: Condition.unaryNames) first with
        | some name =>
          set ([] : List Word)
          pure (.unary name operand)
        | none => pure (.single first)
      | [] => pure (.single first)

/-- Read conditions that one operator joins, and group them from the right. -/
def readJoined (joint : String) (join : Clause → Clause → Clause) (part whole : Reading Clause) :
    Reading Clause := do
  let first ← part
  match ← get with
  | next :: rest =>
    if is joint next then
      set rest
      join first <$> whole
    else pure first
  | [] => pure first

/-- Read a part of a condition, at most so deep inside of others. -/
def readPart : Nat → Rank → Reading Clause
  | 0, _ => failure
  | depth + 1, .disjunction =>
    readJoined "||" .either (readPart depth .conjunction) (readPart depth .disjunction)
  | depth + 1, .conjunction =>
    readJoined "&&" .both (readPart depth .primary) (readPart depth .conjunction)
  | depth + 1, .primary => readPrimary (readPart depth)

/-- The condition that some words write. -/
def ofWords? (words : List Word) : Option Clause :=
  match (readPart (3 * words.length + 3) .disjunction).run words with
  | some (clause, []) => some clause
  | _ => none

/-! ### Deciding -/

/-- The expression that a word writes whose quoted characters stand for themselves. -/
def expressionText (text : MarkedText) : ByteText :=
  text.flatMap fun cell => if cell.1 && !cell.2.isAlphanum then ['\\', cell.2] else [cell.2]

/-- Whether a text matches an expression. The match and its groups are kept in a list. -/
def isMatched (text : ByteText) (written : MarkedText) : Action Bool := do
  match RegularExpression.read ⟨true, [')'], []⟩ (expressionText written) with
  | .error _ =>
    complain 2 "syntax error in regular expression".toList
    throw .failing
  | .ok expression =>
    match expression.search false text 0 with
    | some found =>
      let count := (found.groups.map Prod.fst).foldl max 0
      assignValue "BASH_REMATCH".toList
        (.list ((List.range (count + 1)).map fun number => (number, found.text text number)))
      pure true
    | none => pure false

section

variable (interpreter : Interpreter)

/-- Whether a text fits the pattern that a word writes. -/
def isFitted (text : ByteText) (pattern : Word) : Action Bool := do
  let wildcard ← expandPattern (capture interpreter) pattern
  pure (wildcard.fits text)

/-- Decide a comparison. -/
def compare (left : Word) (name : ByteText) (right : Word) : Action Bool := do
  let text ← expandText (capture interpreter) left
  let number (word : Word) : Action Int := do
    compute (← expandText (capture interpreter) word)
  let numeric (holds : Int → Int → Bool) : Action Bool := do
    let first ← number left
    pure (holds first (← number right))
  match String.ofList name with
  | "=" | "==" => isFitted interpreter text right
  | "!=" => do pure !(← isFitted interpreter text right)
  | "=~" => do
    let cells ← expand (capture interpreter) right
    isMatched text (markedTextOf cells)
  | "-eq" => numeric fun first second => first = second
  | "-ne" => numeric fun first second => first ≠ second
  | "-lt" => numeric fun first second => first < second
  | "-le" => numeric fun first second => first ≤ second
  | "-gt" => numeric fun first second => second < first
  | "-ge" => numeric fun first second => second ≤ first
  | _ =>
    let other ← expandText (capture interpreter) right
    let session ← get
    let setting : Condition.Setting :=
      ⟨session.process, true, fun name => (session.parameter? name).isSome⟩
    pure ((Condition.two setting text name other).toOption.getD false)

/-- Decide a condition. -/
def holds : Clause → Action Bool
  | .single word => do
    pure !(← expandText (capture interpreter) word).isEmpty
  | .unary name operand => do
    let text ← expandText (capture interpreter) operand
    let session ← get
    let setting : Condition.Setting :=
      ⟨session.process, true, fun name => (session.parameter? name).isSome⟩
    if name = ['-', 'o'] then pure false
    else pure ((Condition.one setting name text).toOption.getD false)
  | .binary left name right => compare interpreter left name right
  | .negation clause => do
    pure !(← holds clause)
  | .both first second => do
    if ← holds first then holds second else pure false
  | .either first second => do
    if ← holds first then pure true else holds second

end

end Clause

end CodeNavigator.Shell
