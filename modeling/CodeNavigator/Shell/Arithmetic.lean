/-
This file computes arithmetic expressions. An expression is computed while it is read, with the usual
ranks of the operators, and what is not chosen is read but not computed. Numbers are words of 64
bits with a sign. A name stands for the number that its value writes, and assignments take effect at
once, so the answer comes with them in order. A shell with extras also counts up and down, raises to
powers, and takes the values of names as expressions.
-/

import CodeNavigator.Shell.WordReader

namespace CodeNavigator.Shell.Arithmetic

/-! ### Numbers -/

/-- A number as a word of 64 bits. -/
def wrap (value : Int) : Int :=
  value.bmod (Nat.pow 2 64)

/-- The largest number. -/
def largest : Int := Int.pow 2 63 - 1

/-- The smallest number. -/
def smallest : Int := -Int.pow 2 63

/-- A number that is too far from zero is the last one on its side. -/
def saturate (value : Int) : Int :=
  max smallest (min largest value)

/-- A number without a sign at the beginning of a text, in the base that it announces, with what
follows it. -/
def readMagnitude (text : ByteText) : Option (Nat × ByteText) :=
  let inBase (base : Nat) (digits : ByteText) : Option (Nat × ByteText) :=
    let taken := leadingDigits base digits.length digits
    if taken.isEmpty then none else some (digitsValue base taken, digits.drop taken.length)
  match text with
  | '0' :: mark :: rest =>
    if mark = 'x' || mark = 'X' then
      match inBase 16 rest with
      | some found => some found
      | none => some (0, mark :: rest)
    else inBase 8 ('0' :: mark :: rest)
  | all => inBase 10 all

/-- A number with a sign at the beginning of a text, with what follows it. -/
def readInteger (text : ByteText) : Option (Int × ByteText) :=
  match text.dropWhile ByteText.isSpace with
  | '-' :: rest => (readMagnitude rest).map fun (value, after) => (-(value : Int), after)
  | '+' :: rest => (readMagnitude rest).map fun (value, after) => ((value : Int), after)
  | all => (readMagnitude all).map fun (value, after) => ((value : Int), after)

/-- What is wrong in an expression. -/
inductive Reason
  | operandExpected
  | endExpected
  | closingExpected
  | colonExpected
  | unknownOperator
  | notAssignable
  | digitTooGreat
  | divisionByZero
  | negativeExponent
  | tooLong
deriving DecidableEq

/-- The words of a shell for what is wrong. -/
def Reason.message : Reason → String
  | .operandExpected => "expecting primary"
  | .closingExpected => "expecting ')'"
  | .colonExpected => "expecting ':'"
  | .divisionByZero => "division by zero"
  | .tooLong => "expression too long"
  | _ => "expecting EOF"

/-- The words of a shell with extras for what is wrong. -/
def Reason.extraMessage : Reason → String
  | .operandExpected => "syntax error: operand expected"
  | .endExpected => "syntax error in expression"
  | .closingExpected => "missing \x60)'"
  | .colonExpected => "\x60:' expected for conditional expression"
  | .unknownOperator => "syntax error: invalid arithmetic operator"
  | .notAssignable => "attempted assignment to non-variable"
  | .digitTooGreat => "value too great for base"
  | .divisionByZero => "division by 0"
  | .negativeExponent => "exponent less than 0"
  | .tooLong => "expression recursion level exceeded"

/-- Why an expression has no value: something is wrong in an expression, seen at a token, or the value
of a name is no number. -/
inductive Fault
  | malformed (reason : Reason) (expression token : ByteText)
  | illegalNumber (text : ByteText)
deriving DecidableEq

/-- The number that the value of a name writes. -/
def valueOf (text : ByteText) : Except Fault Int :=
  match readInteger text with
  | some (value, rest) =>
    if rest.all ByteText.isSpace && smallest ≤ value && value ≤ largest then .ok value
    else .error (.illegalNumber text)
  | none => if text.all ByteText.isSpace then .ok 0 else .error (.illegalNumber text)

/-! ### Tokens -/

/-- What an expression is made of. -/
inductive Token
  | number (value : Int)
  | name (name : ByteText)
  | operation (name : String)
  | unreadable (reason : Reason)
  | ended
deriving DecidableEq

/-- The operations with two operands, with their ranks: the lower ones bind more. -/
def binaryRanks : List (String × Nat) :=
  [("*", 0), ("/", 0), ("%", 0), ("+", 1), ("-", 1), ("<<", 2), (">>", 2), ("<", 3), ("<=", 3),
    (">", 3), (">=", 3), ("==", 4), ("!=", 4), ("&", 5), ("^", 6), ("|", 7)]

/-- The rank of an operation with two operands. -/
def rank? (name : String) : Option Nat :=
  (binaryRanks.find? fun entry => entry.1 = name).map Prod.snd

/-- The names of all operations, the longer ones first. -/
def operationNames : List String :=
  ["<<=", ">>=", "!=", "%=", "&&", "&=", "*=", "+=", "-=", "/=", "<<", "<=", "==", ">=", ">>",
    "^=", "|=", "||", "!", "%", "&", "(", ")", "*", "+", "-", "/", ":", "<", "=", ">", "?", "^",
    "|", "~"]

/-- The names of the further operations of a shell with extras. -/
def extraOperationNames : List String :=
  ["**", "++", "--", ","]

/-- The operations that assign, with the operation that is applied before. -/
def assignments : List (String × String) :=
  [("=", ""), ("+=", "+"), ("-=", "-"), ("*=", "*"), ("/=", "/"), ("%=", "%"), ("<<=", "<<"),
    (">>=", ">>"), ("&=", "&"), ("^=", "^"), ("|=", "|")]

/-- The value of digits in a base that is named before them. -/
def readBased (text : ByteText) : Option (Nat × ByteText) :=
  let base := text.takeWhile Char.isDigit
  match text.drop base.length with
  | '#' :: rest =>
    let digits := leadingDigits (digitsValue 10 base) rest.length rest
    if digits.isEmpty then none
    else some (digitsValue (digitsValue 10 base) digits, rest.drop digits.length)
  | _ => none

/-- The first token of an expression, and what follows it. -/
def nextToken (hasExtras : Bool) (text : ByteText) : Token × ByteText :=
  match text.dropWhile ByteText.isSpace with
  | [] => (.ended, [])
  | first :: rest =>
    let all := first :: rest
    let word := all.takeWhile fun character => isNameCharacter character || character = '#'
    if first.isDigit then
      match (if hasExtras then readBased all else none) <|> readMagnitude all with
      | some (value, after) =>
        if hasExtras && after.length + word.length ≠ all.length then
          (.unreadable .digitTooGreat, after)
        else (.number (if hasExtras then wrap value else saturate value), after)
      | none => (.number 0, rest)
    else if isNameStart first then
      let name := all.takeWhile isNameCharacter
      (.name name, all.drop name.length)
    else
      let names := if hasExtras then extraOperationNames ++ operationNames else operationNames
      let longer := names.mergeSort fun left right => right.length ≤ left.length
      match longer.findSome? fun name =>
        (name.toList.isPrefixOf? all).map fun after => (name, after) with
      | some (name, after) => (.operation name, after)
      | none => (.unreadable .unknownOperator, rest)

/-! ### Computing -/

/-- An expression under computation: what is left from the last token on, the next token, what follows
it, the assignments made so far, the latest first, and whether what is read is only skipped. -/
structure State where
  start : ByteText
  token : Token
  rest : ByteText
  assigned : List (ByteText × Int)
  isSkipping : Bool

/-- What the computation may look at. -/
structure Setting where
  hasExtras : Bool
  expression : ByteText
  lookUp : ByteText → ByteText

/-- A step of a computation. -/
abbrev Calculation := ReaderT Setting (StateT State (Except Fault))

/-- Go to the next token. -/
def advance : Calculation Unit := do
  let setting ← read
  modify fun state =>
    let (token, rest) := nextToken setting.hasExtras state.rest
    let start := if token = .ended then state.start
      else state.rest.dropWhile ByteText.isSpace
    { state with start := start, token := token, rest := rest }

/-- Whether the next token is some operation. It is left out then. -/
def accept (name : String) : Calculation Bool := do
  if (← get).token = .operation name then
    advance
    pure true
  else pure false

/-- Give up at a token. -/
def malformedAt {α : Type} (token : ByteText) (reason : Reason) : Calculation α := do
  throw (.malformed reason (← read).expression token)

/-- Give up at the last token. -/
def malformed {α : Type} (reason : Reason) : Calculation α := do
  malformedAt (← get).start reason

/-- Give up at a token in the place of what is expected. -/
def malformedFor {α : Type} (expected : Reason) : Calculation α := do
  match (← get).token with
  | .unreadable reason => malformed (if (← read).hasExtras then reason else expected)
  | _ => malformed expected

/-- Compute something, or only read it where it is not chosen. -/
def chosenIf {α : Type} (isChosen : Bool) (body : Calculation α) : Calculation α := do
  let before := (← get).isSkipping
  modify fun state => { state with isSkipping := before || !isChosen }
  let value ← body
  modify fun state => { state with isSkipping := before }
  pure value

/-- The parts of expressions, from those that reach furthest. -/
inductive Part
  | sequence
  | assignment
  | operand

/-- The number for a truth value. -/
def ofBool (value : Bool) : Int :=
  if value then 1 else 0

/-- The value of an operation with two operands. -/
def apply (start : ByteText) (name : String) (left right : Int) : Calculation Int := do
  let leftBits := BitVec.ofInt 64 left
  let rightBits := BitVec.ofInt 64 right
  if (name = "/" || name = "%") && right = 0 then
    malformedAt start .divisionByZero
  else
    pure (match name with
      | "|" => (leftBits ||| rightBits).toInt
      | "^" => (leftBits ^^^ rightBits).toInt
      | "&" => (leftBits &&& rightBits).toInt
      | "==" => ofBool (left = right)
      | "!=" => ofBool (left ≠ right)
      | "<" => ofBool (left < right)
      | "<=" => ofBool (left ≤ right)
      | ">" => ofBool (right < left)
      | ">=" => ofBool (right ≤ left)
      | "<<" => (leftBits <<< (right % 64).toNat).toInt
      | ">>" => (leftBits.sshiftRight (right % 64).toNat).toInt
      | "+" => wrap (left + right)
      | "-" => wrap (left - right)
      | "*" => wrap (left * right)
      | "/" => wrap (left.tdiv right)
      | "%" => wrap (left.tmod right)
      | _ => right)

/-- How deep the values of names may lead to other names. -/
def valueDepth : Nat := 20

/-- The number that a name stands for. -/
def lookUp (evaluateValue : ByteText → Except Fault Int) (name : ByteText) : Calculation Int := do
  let state ← get
  if state.isSkipping then pure 0
  else
    match state.assigned.find? fun entry => entry.1 = name with
    | some (_, value) => pure value
    | none =>
      match evaluateValue ((← read).lookUp name) with
      | .ok value => pure value
      | .error fault => throw fault

/-- Give a name a number. -/
def assignTo (name : ByteText) (value : Int) : Calculation Int := do
  modify fun state =>
    if state.isSkipping then state
    else { state with assigned := (name, value) :: state.assigned }
  pure value

section Reading

variable (part : Part → Calculation Int) (evaluateValue : ByteText → Except Fault Int)

/-- Read a name and, in a shell with extras, the steps up or down behind it. -/
def readName (name : ByteText) : Calculation Int := do
  advance
  if (← read).hasExtras then
    if ← accept "++" then
      let value ← lookUp evaluateValue name
      let _ ← assignTo name (wrap (value + 1))
      pure value
    else if ← accept "--" then
      let value ← lookUp evaluateValue name
      let _ ← assignTo name (wrap (value - 1))
      pure value
    else lookUp evaluateValue name
  else lookUp evaluateValue name

/-- Step a name up or down before its value is used. -/
def readStep (difference : Int) : Calculation Int := do
  match (← get).token with
  | .name name =>
    advance
    let value ← lookUp evaluateValue name
    assignTo name (wrap (value + difference))
  | _ => part .operand

/-- Read an operand with the signs before it. -/
def readOperand : Calculation Int := do
  match (← get).token with
  | .number value =>
    advance
    pure value
  | .name name => readName evaluateValue name
  | .operation "(" =>
    advance
    let value ← part .sequence
    if ← accept ")" then pure value else malformedFor .closingExpected
  | .operation "+" =>
    advance
    part .operand
  | .operation "-" =>
    advance
    (fun value => wrap (-value)) <$> part .operand
  | .operation "!" =>
    advance
    (fun value => ofBool (value = 0)) <$> part .operand
  | .operation "~" =>
    advance
    (fun value => -value - 1) <$> part .operand
  | .operation "++" =>
    advance
    readStep part evaluateValue 1
  | .operation "--" =>
    advance
    readStep part evaluateValue (-1)
  | _ => malformedFor .operandExpected

/-- The power of a number, as a word. -/
def power (base exponent : Int) : Calculation Int :=
  if exponent < 0 then malformed .negativeExponent
  else pure (wrap (Int.pow base exponent.toNat))

/-- Read an operand with the power it is raised to. -/
def readPower : Calculation Int := do
  let base ← part .operand
  if (← read).hasExtras then
    if ← accept "**" then
      let exponent ← part .operand
      power base exponent
    else pure base
  else pure base

/-- The operation with two operands that comes next, with its rank. -/
def nextBinary? : Calculation (Option (String × Nat)) := do
  match (← get).token with
  | .operation name => pure ((rank? name).map fun rank => (name, rank))
  | _ => pure none

/-- Apply operations to a value as long as they bind more than some rank. -/
def climb : Nat → Nat → Int → Calculation Int
  | 0, _, _ => malformed .tooLong
  | limit + 1, bound, left => do
    match ← nextBinary? with
    | some (name, rank) =>
      if rank < bound then
        advance
        let start := (← get).start
        let right ← readPower part
        let grown ← climb limit rank right
        let value ← if (← get).isSkipping then pure grown else apply start name left grown
        climb limit bound value
      else pure left
    | none => pure left

/-- Above all ranks. -/
def rankBound : Nat := 8

/-- Read operands joined by operations. -/
def readBinary : Calculation Int := do
  let limit := (← get).rest.length + 2
  let first ← readPower part
  climb part limit rankBound first

/-- Read what has to be true together. What follows something false is only read. -/
def readConjunction : Nat → Calculation Int
  | 0 => malformed .tooLong
  | limit + 1 => do
    let first ← readBinary part
    if ← accept "&&" then
      let second ← chosenIf (first ≠ 0) (readConjunction limit)
      pure (ofBool (first ≠ 0 && second ≠ 0))
    else pure first

/-- Read alternatives. What follows something true is only read. -/
def readDisjunction (limit : Nat) : Nat → Calculation Int
  | 0 => malformed .tooLong
  | count + 1 => do
    let first ← readConjunction part limit
    if ← accept "||" then
      let second ← chosenIf (first = 0) (readDisjunction limit count)
      pure (ofBool (first ≠ 0 || second ≠ 0))
    else pure first

/-- Read a choice between two expressions. -/
def readChoice (limit : Nat) : Nat → Calculation Int
  | 0 => malformed .tooLong
  | count + 1 => do
    let condition ← readDisjunction part limit limit
    if ← accept "?" then
      let consequence ← chosenIf (condition ≠ 0) (part .assignment)
      if ← accept ":" then
        let alternative ← chosenIf (condition = 0) (readChoice limit count)
        pure (if condition ≠ 0 then consequence else alternative)
      else malformedFor .colonExpected
    else pure condition

/-- Read an assignment, or an expression without one. -/
def readAssignment : Calculation Int := do
  let before ← get
  let limit := before.rest.length + 2
  match before.token with
  | .name name =>
    advance
    match (← get).token with
    | .operation operation =>
      match assignments.find? fun entry => entry.1 = operation with
      | some (_, applied) =>
        advance
        let start := (← get).start
        let value ← part .assignment
        if (← get).isSkipping then pure value
        else if applied = "" then assignTo name value
        else
          let old ← lookUp evaluateValue name
          let combined ← apply start applied old value
          assignTo name combined
      | none =>
        set before
        readChoice part limit limit
    | _ =>
      set before
      readChoice part limit limit
  | _ => readChoice part limit limit

/-- Read expressions that commas divide. -/
def readSequence : Nat → Calculation Int
  | 0 => malformed .tooLong
  | limit + 1 => do
    let value ← part .assignment
    if (← read).hasExtras then
      if ← accept "," then readSequence limit else pure value
    else pure value

end Reading

/-- Read a part of an expression that stands at most so deep inside of others. -/
def readPart (evaluateValue : ByteText → Except Fault Int) : Nat → Part → Calculation Int
  | 0, _ => malformed .tooLong
  | depth + 1, part =>
    let inner : Part → Calculation Int := fun part => readPart evaluateValue depth part
    match part with
    | .operand => readOperand inner evaluateValue
    | .assignment => readAssignment inner evaluateValue
    | .sequence => do readSequence inner ((← get).rest.length + 2)

/-- Compute an expression whose names have values that are found in some way. -/
def evaluateWith (evaluateValue : ByteText → Except Fault Int) (setting : Setting)
    (expression : ByteText) : Except Fault (Int × List (ByteText × Int)) :=
  let body : Calculation Int := do
    advance
    let value ← readPart evaluateValue (3 * expression.length + 6) .sequence
    match (← get).token with
    | .ended => pure value
    | .operation "=" => malformed .notAssignable
    | _ => malformedFor .endExpected
  match (body { setting with expression := expression }).run ⟨[], .ended, expression, [], false⟩ with
  | .ok (value, state) => .ok (value, state.assigned.reverse)
  | .error fault => .error fault

/-- The number that a value stands for in a shell with extras, where it is an expression itself. -/
def valueOfExpression (setting : Setting) : Nat → ByteText → Except Fault Int
  | 0, text => valueOf text
  | depth + 1, text =>
    if text.all ByteText.isSpace then .ok 0
    else (evaluateWith (valueOfExpression setting depth) setting text).map Prod.fst

/-- Compute an expression. An empty one is zero in a shell with extras. -/
def evaluate (setting : Setting) (expression : ByteText) :
    Except Fault (Int × List (ByteText × Int)) :=
  if setting.hasExtras then
    if expression.all ByteText.isSpace then .ok (0, [])
    else evaluateWith (valueOfExpression setting valueDepth) setting expression
  else evaluateWith valueOf setting expression

end CodeNavigator.Shell.Arithmetic
