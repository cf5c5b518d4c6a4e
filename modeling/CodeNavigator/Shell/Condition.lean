/-
This file decides the conditions that scripts test. A condition compares texts or numbers, asks
about a file, or joins other conditions. With three words the middle one decides what is asked;
otherwise the words are read in order, and a word that could be an operator is an operand where no
operand would follow it. A condition that makes no sense is neither true nor false.
-/

import CodeNavigator.Shell.Arithmetic

namespace CodeNavigator.Shell.Condition

/-! ### Questions -/

/-- The kinds of words in a condition. -/
inductive Kind
  | one
  | two
  | negation
  | conjunction
  | disjunction
  | opening
  | closing
deriving DecidableEq

/-- The operators on one operand. -/
def unaryNames : List String :=
  ["-r", "-w", "-x", "-e", "-f", "-d", "-c", "-b", "-p", "-u", "-g", "-k", "-s", "-t", "-z", "-n",
    "-h", "-L", "-O", "-G", "-S"]

/-- The operators on two operands. -/
def binaryNames : List String :=
  ["=", "!=", "<", ">", "-eq", "-ne", "-ge", "-gt", "-le", "-lt", "-nt", "-ot", "-ef"]

/-- The further operators on two operands of a shell with extras. -/
def extraBinaryNames : List String :=
  ["==", "=~"]

/-- The kind of an operator. -/
def kind? (hasExtras : Bool) (word : ByteText) : Option Kind :=
  let name := String.ofList word
  if unaryNames.contains name || (hasExtras && name = "-v") then some .one
  else if binaryNames.contains name || (hasExtras && extraBinaryNames.contains name) then some .two
  else
    match name with
    | "!" => some .negation
    | "-a" => some .conjunction
    | "-o" => some .disjunction
    | "(" => some .opening
    | ")" => some .closing
    | _ => none

/-- Why a condition makes no sense. -/
inductive Fault
  | illegalNumber (text : ByteText)
  | argumentExpected (operator : ByteText)
  | unexpectedOperator (operator : ByteText)
  | closingExpected
  | missingBracket
  | tooManyArguments
deriving DecidableEq

/-- What a condition may look at. -/
structure Setting where
  process : Process
  hasExtras : Bool
  isSet : ByteText → Bool

/-- What a path leads to. -/
def Setting.find (setting : Setting) (path : ByteText) : Option FileTree :=
  (setting.process.machine.tree.resolve setting.process.place ⟨ByteText.asString path⟩).toOption

/-- What a path leads to without following a link at its end. -/
def Setting.findLink (setting : Setting) (path : ByteText) : Option FileTree :=
  (setting.process.machine.tree.resolveLink setting.process.place
    ⟨ByteText.asString path⟩).toOption

/-- The number that an operand writes. -/
def readNumber (text : ByteText) : Except Fault Int :=
  let trimmed := text.dropWhile ByteText.isSpace
  let (isNegative, digits) := match trimmed with
    | '-' :: rest => (true, rest)
    | '+' :: rest => (false, rest)
    | all => (false, all)
  let taken := digits.takeWhile Char.isDigit
  let value : Int := if isNegative then -(Text.digitsValue taken : Int) else Text.digitsValue taken
  if taken.isEmpty || !(digits.drop taken.length).all ByteText.isSpace ||
      value < Arithmetic.smallest || Arithmetic.largest < value then
    .error (.illegalNumber text)
  else .ok value

/-- Whether a descriptor is open on a terminal. No descriptor is. -/
def isTerminal (operand : ByteText) : Except Fault Bool := do
  let _ ← readNumber operand
  .ok false

/-- The answer to a question about one operand. -/
def one (setting : Setting) (name operand : ByteText) : Except Fault Bool :=
  let found := setting.find operand
  let modeIs (isTrue : Mode → Bool) : Bool := match found with
    | some (.file mode _) | some (.directory mode _) => isTrue mode
    | some (.device _) => true
    | _ => false
  match String.ofList name with
  | "-n" => .ok (!operand.isEmpty)
  | "-z" => .ok operand.isEmpty
  | "-e" | "-O" | "-G" | "-a" => .ok found.isSome
  | "-r" => .ok (modeIs Mode.mayRead)
  | "-w" => .ok (modeIs Mode.mayWrite)
  | "-x" => .ok (match found with
    | some (.file mode _) | some (.directory mode _) => mode.mayExecute
    | _ => false)
  | "-f" => .ok (match found with
    | some (.file _ _) => true
    | _ => false)
  | "-d" => .ok (found.any FileTree.isDirectory)
  | "-s" => .ok (match found with
    | some (.file _ content) => !content.isEmpty
    | some (.directory _ _) => true
    | _ => false)
  | "-c" => .ok (match found with
    | some (.device _) => true
    | _ => false)
  | "-h" | "-L" => .ok (match setting.findLink operand with
    | some (.link _) => true
    | _ => false)
  | "-u" => .ok (modeIs fun mode => mode.bits.testBit 11)
  | "-g" => .ok (modeIs fun mode => mode.bits.testBit 10)
  | "-k" => .ok (modeIs fun mode => mode.bits.testBit 9)
  | "-t" => isTerminal operand
  | "-v" => .ok (setting.isSet operand)
  | _ => .ok false

/-- Whether two paths lead to the same place. -/
def areSame (setting : Setting) (left right : ByteText) : Bool :=
  let locate (path : ByteText) := (setting.process.machine.tree.locate setting.process.place
    ⟨ByteText.asString path⟩).toOption
  match locate left, locate right with
  | some first, some second => first = second
  | _, _ => false

/-- The answer to a question about two operands. -/
def two (setting : Setting) (left name right : ByteText) : Except Fault Bool := do
  let compare (holds : Int → Int → Bool) : Except Fault Bool := do
    let first ← readNumber left
    let second ← readNumber right
    .ok (holds first second)
  match String.ofList name with
  | "=" | "==" => .ok (left = right)
  | "!=" => .ok (left ≠ right)
  | "<" => .ok (left < right)
  | ">" => .ok (right < left)
  | "-eq" => compare fun first second => first = second
  | "-ne" => compare fun first second => first ≠ second
  | "-lt" => compare fun first second => first < second
  | "-le" => compare fun first second => first ≤ second
  | "-gt" => compare fun first second => second < first
  | "-ge" => compare fun first second => second ≤ first
  | "-nt" =>
    .ok (setting.hasExtras && (setting.find left).isSome && (setting.find right).isNone)
  | "-ot" =>
    .ok (setting.hasExtras && (setting.find right).isSome && (setting.find left).isNone)
  | _ => .ok (areSame setting left right)

/-! ### Reading -/

/-- The parts of conditions, from those that reach furthest. -/
inductive Part
  | disjunction
  | conjunction
  | single

/-- Reading from some words on. The words that were read are left out. -/
abbrev Decision := StateT (List ByteText) (Except Fault)

/-- Whether the first of some words could be an operator on one operand, but is one operand of the
operator that follows. -/
def isOperand (hasExtras : Bool) : List ByteText → Bool
  | _ :: next :: _ :: _ => kind? hasExtras next = some .two
  | [_, _] => false
  | _ => true

/-- The kind of the first of some words, if it is an operator there. -/
def kindAt? (hasExtras : Bool) (words : List ByteText) : Option Kind :=
  match words with
  | [] => none
  | word :: rest =>
    match kind? hasExtras word with
    | some .one => if isOperand hasExtras words then none else some .one
    | some .opening => if rest.isEmpty then none else some .opening
    | other => other

section Reading

variable (setting : Setting) (part : Part → Decision Bool)

/-- Read a condition that is not joined to others. -/
def readSingle : Decision Bool := do
  match ← get with
  | [] => pure false
  | word :: rest =>
    match kindAt? setting.hasExtras (word :: rest) with
    | some .negation =>
      set rest
      Bool.not <$> part .single
    | some .opening =>
      if kindAt? setting.hasExtras rest = some .closing then
        set rest.tail
        pure false
      else
        set rest
        let value ← part .disjunction
        match ← get with
        | [')'] :: after =>
          set after
          pure value
        | _ => throw .closingExpected
    | some .one =>
      match rest with
      | operand :: after =>
        set after
        one setting word operand
      | [] => throw (.argumentExpected word)
    | _ =>
      match rest with
      | name :: others =>
        if kindAt? setting.hasExtras rest = some .two then
          match others with
          | right :: after =>
            set after
            two setting word name right
          | [] => throw (.argumentExpected name)
        else
          set rest
          pure (!word.isEmpty)
      | [] =>
        set rest
        pure (!word.isEmpty)

/-- Read conditions that are joined by an operator. -/
def readJoined (joint : Kind) (inner : Part) (combine : Bool → Bool → Bool) :
    Nat → Decision Bool
  | 0 => pure false
  | limit + 1 => do
    let first ← part inner
    let words ← get
    if kindAt? setting.hasExtras words = some joint then
      set words.tail
      let second ← readJoined joint inner combine limit
      pure (combine first second)
    else pure first

end Reading

/-- Read a part of a condition that stands at most so deep inside of others. -/
def readPart (setting : Setting) : Nat → Part → Decision Bool
  | 0, _ => throw .tooManyArguments
  | depth + 1, part =>
    let inner : Part → Decision Bool := fun part => readPart setting depth part
    match part with
    | .single => readSingle setting inner
    | .conjunction => do
      readJoined setting inner .conjunction .single and ((← get).length + 1)
    | .disjunction => do
      readJoined setting inner .disjunction .conjunction or ((← get).length + 1)

/-- Decide what some words say, read in order. -/
def decideInOrder (setting : Setting) (words : List ByteText) : Except Fault Bool :=
  match (readPart setting (3 * words.length + 3) .disjunction).run words with
  | .error fault => .error fault
  | .ok (value, rest) =>
    match rest with
    | [] => .ok value
    | operator :: _ =>
      if setting.hasExtras then .error .tooManyArguments
      else .error (.unexpectedOperator (if words.length - rest.length = 0 then operator
        else (words.drop (words.length - rest.length - 1)).head?.getD operator))

/-- Decide what some words say. -/
def decide? (setting : Setting) : List ByteText → Except Fault Bool
  | [] => .ok false
  | [left, name, right] =>
    if kind? setting.hasExtras name = some .two then two setting left name right
    else if left = ['('] && right = [')'] then decide? setting [name]
    else if left = ['!'] then (decide? setting [name, right]).map Bool.not
    else decideInOrder setting [left, name, right]
  | [first, second, third, fourth] =>
    if first = ['('] && fourth = [')'] then decideInOrder setting [second, third]
    else if first = ['!'] then (decide? setting [second, third, fourth]).map Bool.not
    else decideInOrder setting [first, second, third, fourth]
  | words => decideInOrder setting words

end CodeNavigator.Shell.Condition
