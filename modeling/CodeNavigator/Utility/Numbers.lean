/-
This file defines the programs that compute: rows of numbers, expressions that are given in separate
arguments, and prime factors.
-/

import CodeNavigator.Text.Floating
import CodeNavigator.Text.RegularExpression
import CodeNavigator.Utility.Basic

namespace CodeNavigator.Utility

/-! ### Rows of numbers -/

/-- A decimal number, as a whole number of its last places. -/
structure DecimalNumber where
  value : Int
  places : Nat

/-- The decimal number that a text writes. -/
def decimalNumber? (text : ByteText) : Option DecimalNumber := do
  let trimmed := text.dropWhile ByteText.isSpace
  let (isNegative, body) := match trimmed with
    | '-' :: rest => (true, rest)
    | '+' :: rest => (false, rest)
    | all => (false, all)
  let whole := body.takeWhile Char.isDigit
  let rest := body.drop whole.length
  let (places, after) := match rest with
    | '.' :: behind =>
      let digits := behind.takeWhile Char.isDigit
      (digits, behind.drop digits.length)
    | other => ([], other)
  if whole.isEmpty && places.isEmpty then none
  else
    let exponent ← match after with
      | [] => some 0
      | mark :: behind =>
        if mark = 'e' || mark = 'E' then
          match behind with
          | '-' :: digits => (Text.readDigits digits).map fun number => -(number : Int)
          | '+' :: digits => (Text.readDigits digits).map fun number => (number : Int)
          | digits => (Text.readDigits digits).map fun number => (number : Int)
        else none
    let digits : Int := Text.digitsValue (whole ++ places)
    let signed := if isNegative then -digits else digits
    let scale := (places.length : Int) - exponent
    if 0 ≤ scale then some ⟨signed, scale.toNat⟩ else some ⟨signed * Int.pow 10 (-scale).toNat, 0⟩

/-- The number that a text writes, in decimal or in hexadecimal digits. -/
def rowNumber? (text : ByteText) : Option DecimalNumber :=
  match text with
  | '0' :: 'x' :: digits =>
    let value : Nat := digits.foldl (fun value digit => value * 16 +
      (if digit.isDigit then digit.toNat - 48 else digit.toLower.toNat - 87)) 0
    let isHexadecimal := !digits.isEmpty && digits.all fun digit =>
      digit.isDigit || ('a' ≤ digit.toLower && digit.toLower ≤ 'f')
    if isHexadecimal then some ⟨value, 0⟩ else none
  | other => decimalNumber? other

/-- A number as a whole number of so many places. -/
def DecimalNumber.scaled (number : DecimalNumber) (places : Nat) : Int :=
  number.value * Int.pow 10 (places - number.places)

/-- A whole number of places as a decimal number, filled up to a width with zeros. -/
def writePlaces (places width : Nat) (value : Int) : ByteText :=
  let digits := ByteText.padLeft '0' (places + 1) (ByteText.ofNat value.natAbs)
  let whole := digits.take (digits.length - places)
  let body := if places = 0 then whole else whole ++ '.' :: digits.drop whole.length
  if value < 0 then '-' :: ByteText.padLeft '0' (width - 1) body
  else ByteText.padLeft '0' width body

/-- The options of `seq`. -/
def seqOptions : OptionSet where
  letters := "f:s:w"
  names := [("format", .required, 'f'), ("separator", .required, 's'), ("equal-width", .nothing, 'w')]

/-- The arguments with two hyphens before the first that is a negative number. -/
def guardNumbers : List ByteText → List ByteText
  | [] => []
  | argument :: rest =>
    match argument with
    | '-' :: character :: _ =>
      if character.isDigit || character = '.' then ['-', '-'] :: argument :: rest
      else argument :: guardNumbers rest
    | _ => argument :: guardNumbers rest

/-- A template for numbers: what stands before and behind the number, its flags, its width, its
precision and its letter. -/
structure NumberTemplate where
  lead : ByteText
  behind : ByteText
  flags : ByteText
  width : Nat
  precision : Nat
  letter : Char

/-- A text with double percent signs made single. -/
def singlePercents : ByteText → ByteText
  | '%' :: '%' :: rest => '%' :: singlePercents rest
  | character :: rest => character :: singlePercents rest
  | [] => []

/-- The text before the first directive of a template. -/
def beforeDirective : ByteText → ByteText
  | '%' :: '%' :: rest => '%' :: '%' :: beforeDirective rest
  | '%' :: _ => []
  | character :: rest => character :: beforeDirective rest
  | [] => []

/-- Read a template for numbers. -/
def readTemplate (call : Call) (text : ByteText) : Job NumberTemplate := do
  let lead := beforeDirective text
  match text.drop lead.length with
  | [] => fail call 1 ("format ".toList ++ literal text ++ " has no % directive".toList)
  | _ :: rest =>
    let flags := rest.takeWhile fun character => "-+#0 '".toList.contains character
    let widthDigits := (rest.drop flags.length).takeWhile Char.isDigit
    let afterWidth := rest.drop (flags.length + widthDigits.length)
    let (precision, after) := match afterWidth with
      | '.' :: behind =>
        let digits := behind.takeWhile Char.isDigit
        (Text.digitsValue digits, behind.drop digits.length)
      | other => (6, other)
    match after with
    | letter :: behind =>
      if "aefgAEFG".toList.contains letter then
        pure ⟨singlePercents lead, singlePercents behind, flags, Text.digitsValue widthDigits,
          precision, letter⟩
      else
        fail call 1 ("format ".toList ++ literal text ++ " has unknown %".toList ++
          letter :: " directive".toList)
    | [] => fail call 1 ("format ".toList ++ literal text ++ " ends in %".toList)

/-- A number in the form of a template. -/
def NumberTemplate.write (template : NumberTemplate) (places : Nat) (value : Int) : ByteText :=
  let magnitude := Float.ofScientific value.natAbs true places
  let body := Floating.write template.letter template.precision (template.flags.contains '#')
    magnitude
  let sign := if value < 0 then ['-'] else if template.flags.contains '+' then ['+']
    else if template.flags.contains ' ' then [' '] else []
  let text := sign ++ body
  let shownText :=
    if template.flags.contains '-' then ByteText.padRight template.width text
    else if template.flags.contains '0' then
      sign ++ ByteText.padLeft '0' (template.width - sign.length) body
    else ByteText.padLeft ' ' template.width text
  template.lead ++ shownText ++ template.behind

/-- How many numbers a row may have. -/
def rowLimit : Nat := 2000000

/-- Write a row of numbers. -/
def seq : Utility := fun call => do
  let guarded := { call with arguments := guardNumbers call.arguments }
  let (chosen, operands) ← readLeadingOptions guarded 1 seqOptions
  if operands.isEmpty then misuse call 1 "missing operand".toList
  if let some extra := operands[3]? then refuseOperand call extra
  let numbers ← operands.mapM fun text => do
    match rowNumber? text with
    | some number => pure number
    | none => misuse call 1 ("invalid floating point argument: ".toList ++ literal text)
  let one : DecimalNumber := ⟨1, 0⟩
  let (first, step, last) := match numbers with
    | [last] => (one, one, last)
    | [first, last] => (first, one, last)
    | first :: step :: last :: _ => (first, step, last)
    | [] => (one, one, one)
  if step.value = 0 then
    misuse call 1 ("invalid Zero increment value: ".toList ++ literal (operands[1]?.getD []))
  let places := max first.places step.places
  let scale := max places last.places
  let start := first.scaled scale
  let stride := step.scaled scale
  let finish := last.scaled scale
  let count : Nat := if 0 < stride then if finish < start then 0 else ((finish - start) / stride).toNat + 1
    else if start < finish then 0 else ((start - finish) / (-stride)).toNat + 1
  let values := (List.range (min count rowLimit)).map fun (index : Nat) => start + stride * index
  let shrink (value : Int) : Int := value / (Nat.pow 10 (scale - places) : Nat)
  let template ← match chosen.value? 'f' with
    | some text => some <$> readTemplate call text
    | none => pure none
  let widthOf (value : Int) : Nat := (writePlaces places 0 (shrink value)).length
  let width := if chosen.has 'w' then
      max (widthOf start) (max ((values.getLast?.map widthOf).getD 0) (widthOf finish))
    else 0
  let texts := values.map fun value => match template with
    | some template => template.write scale value
    | none => writePlaces places width (shrink value)
  let separator := (chosen.value? 's').getD ['\n']
  emit call (if texts.isEmpty then [] else separator.intercalate texts ++ ['\n'])
  pure 0

/-! ### Expressions -/

/-- Why an expression has no value. -/
inductive ExpressionFault
  | missing (last : ByteText)
  | unexpected (text : ByteText)
  | unclosed (last : ByteText)
  | misclosed (text : ByteText)
  | notNumber
  | zeroDivision
  | pattern (fault : RegularExpression.Fault)

/-- The words for what is wrong with an expression. -/
def ExpressionFault.message : ExpressionFault → ByteText
  | .missing last => "syntax error: missing argument after ".toList ++ literal last
  | .unexpected text => "syntax error: unexpected argument ".toList ++ literal text
  | .unclosed last => "syntax error: expecting ')' after ".toList ++ literal last
  | .misclosed text => "syntax error: expecting ')' instead of ".toList ++ literal text
  | .notNumber => "non-integer argument".toList
  | .zeroDivision => "division by zero".toList
  | .pattern fault => ByteText.ofString fault.description

/-- Reading an expression: the arguments that are left, and the last one that was taken. -/
abbrev ExpressionReading := StateT (List ByteText × ByteText) (Except ExpressionFault)

/-- The whole number that a text writes. -/
def wholeNumber? : ByteText → Option Int
  | '-' :: digits => (Text.readDigits digits).map fun number => -(number : Int)
  | digits => (Text.readDigits digits).map fun number => (number : Int)

/-- Whether a value counts as nothing. -/
def isNull (text : ByteText) : Bool :=
  text.isEmpty || wholeNumber? text = some 0

/-- Take the next argument if it is one of some. -/
def takeOne (names : List String) : ExpressionReading (Option String) := do
  let (rest, _) ← get
  match rest with
  | first :: others =>
    match names.find? fun name => name.toList = first with
    | some name =>
      set (others, first)
      pure (some name)
    | none => pure none
  | [] => pure none

/-- Take the next argument. -/
def takeNext : ExpressionReading ByteText := do
  let (rest, last) ← get
  match rest with
  | first :: others =>
    set (others, first)
    pure first
  | [] => throw (.missing last)

/-- What a text has in common with a pattern at its beginning: the first group, or the length. -/
def matchedPart (text pattern : ByteText) : Except ExpressionFault ByteText :=
  match RegularExpression.read ⟨false, [], []⟩ pattern with
  | .error fault => .error (.pattern fault)
  | .ok expression =>
    let hasGroup := (pattern.zip (pattern.drop 1)).any fun pair => pair = ('\\', '(')
    match expression.search false text 0 with
    | some found =>
      if found.start ≠ 0 then .ok (if hasGroup then [] else ['0'])
      else if hasGroup then .ok (found.text text 1)
      else .ok (ByteText.ofNat found.finish)
    | none => .ok (if hasGroup then [] else ['0'])

/-- The levels of an expression, from those that reach furthest. -/
inductive ExpressionLevel
  | either
  | both
  | comparison
  | sum
  | product
  | match_
  | primary

/-- Whether a comparison holds. Numbers are compared as numbers if both sides are. -/
def compareValues (name : String) (left right : ByteText) : Bool :=
  let order := match wholeNumber? left, wholeNumber? right with
    | some first, some second => compare first second
    | _, _ => compare left right
  match name with
  | "<" => order = .lt
  | "<=" => order ≠ .gt
  | "=" | "==" => order = .eq
  | "!=" => order ≠ .eq
  | ">=" => order ≠ .lt
  | _ => order = .gt

/-- The number that a value has to be. -/
def requireNumber (text : ByteText) : ExpressionReading Int :=
  match wholeNumber? text with
  | some number => pure number
  | none => throw .notNumber

/-- Apply an operator of arithmetic. -/
def calculate (name : String) (left right : ByteText) : ExpressionReading ByteText := do
  let first ← requireNumber left
  let second ← requireNumber right
  match name with
  | "+" => pure (ByteText.ofInt (first + second))
  | "-" => pure (ByteText.ofInt (first - second))
  | "*" => pure (ByteText.ofInt (first * second))
  | "/" =>
    if second = 0 then throw .zeroDivision else pure (ByteText.ofInt (first.tdiv second))
  | _ => if second = 0 then throw .zeroDivision else pure (ByteText.ofInt (first.tmod second))

/-- Read operands that operators join from the left. -/
def joinLeft (names : List String) (inner : ExpressionReading ByteText)
    (combine : String → ByteText → ByteText → ExpressionReading ByteText) :
    Nat → ByteText → ExpressionReading ByteText
  | 0, value => pure value
  | limit + 1, value => do
    match ← takeOne names with
    | none => pure value
    | some name =>
      let other ← inner
      joinLeft names inner combine limit (← combine name value other)

/-- Read an operand: a word, a call of a function or an expression in parentheses. -/
def readPrimary (inner : ExpressionLevel → ExpressionReading ByteText) :
    ExpressionReading ByteText := do
  match ← takeOne ["(", "+", "length", "index", "substr", "match"] with
  | none => takeNext
  | some "+" => takeNext
  | some "(" =>
    let value ← inner .either
    let (rest, last) ← get
    match rest with
    | [')'] :: others =>
      set (others, [')'])
      pure value
    | other :: _ => throw (.misclosed other)
    | [] => throw (.unclosed last)
  | some "length" =>
    let value ← inner .primary
    pure (ByteText.ofNat value.length)
  | some "index" =>
    let text ← inner .primary
    let letters ← inner .primary
    let position := (text.takeWhile fun character => !letters.contains character).length
    pure (if position < text.length then ByteText.ofNat (position + 1) else ['0'])
  | some "match" =>
    let text ← inner .primary
    let pattern ← inner .primary
    match matchedPart text pattern with
    | .ok value => pure value
    | .error fault => throw fault
  | some _ =>
    let text ← inner .primary
    let start ← inner .primary
    let length ← inner .primary
    match wholeNumber? start, wholeNumber? length with
    | some position, some count =>
      pure (if position ≤ 0 || count ≤ 0 then []
        else (text.drop (position - 1).toNat).take count.toNat)
    | _, _ => pure []

/-- Read a level of an expression, at most so deep. -/
def readLevel : Nat → ExpressionLevel → ExpressionReading ByteText
  | 0, _ => throw .notNumber
  | depth + 1, level => do
    let steps := (← get).1.length + 1
    let inner (next : ExpressionLevel) : ExpressionReading ByteText := readLevel depth next
    match level with
    | .either =>
      joinLeft ["|"] (inner .both) (fun _ left right =>
        pure (if !isNull left then left else if isNull right then ['0'] else right)) steps
        (← inner .both)
    | .both =>
      joinLeft ["&"] (inner .comparison) (fun _ left right =>
        pure (if isNull left || isNull right then ['0'] else left)) steps (← inner .comparison)
    | .comparison =>
      joinLeft ["<", "<=", "=", "==", "!=", ">=", ">"] (inner .sum) (fun name left right =>
        pure (if compareValues name left right then ['1'] else ['0'])) steps (← inner .sum)
    | .sum => joinLeft ["+", "-"] (inner .product) calculate steps (← inner .product)
    | .product => joinLeft ["*", "/", "%"] (inner .match_) calculate steps (← inner .match_)
    | .match_ =>
      joinLeft [":"] (inner .primary) (fun _ left right =>
        match matchedPart left right with
        | .ok value => pure value
        | .error fault => throw fault) steps (← inner .primary)
    | .primary => readPrimary inner

/-- Compute an expression. The status tells whether it counts as nothing. -/
def expr : Utility := fun call => do
  let arguments := if call.arguments.head? = some ['-', '-'] then call.arguments.drop 1
    else call.arguments
  if arguments.isEmpty then misuse call 2 "missing operand".toList
  match (readLevel (8 * arguments.length + 8) .either).run (arguments, []) with
  | .error fault => fail call 2 fault.message
  | .ok (value, (rest, _)) =>
    match rest with
    | extra :: _ => fail call 2 (ExpressionFault.unexpected extra).message
    | [] =>
      emitLines call [value]
      pure (if isNull value then 1 else 0)

/-! ### Factors -/

/-- The prime factors of a number from some divisor on. -/
def factorsFrom : Nat → Nat → Nat → List Nat
  | 0, _, number => if 1 < number then [number] else []
  | limit + 1, divisor, number =>
    if number < 2 then []
    else if number < divisor * divisor then [number]
    else if number % divisor = 0 then divisor :: factorsFrom limit divisor (number / divisor)
    else factorsFrom limit (divisor + if divisor = 2 then 1 else 2) number

/-- Write the prime factors of numbers. -/
def factor : Utility := fun call => do
  let (_, operands) ← readOptions call 1 (.of "h" [("exponents", .nothing, 'h')])
  let words ← if operands.isEmpty then do
      match ← Job.readAll 0 with
      | .ok text => pure (ByteText.words text)
      | .error _ => pure []
    else pure operands
  let results ← words.mapM fun word => do
    match Text.readDigits (if word.head? = some '+' then word.drop 1 else word) with
    | some number =>
      let found := factorsFrom 2000000 2 number
      emitLines call [ByteText.ofNat number ++ ':' :: found.flatMap fun factor =>
        ' ' :: ByteText.ofNat factor]
      pure true
    | none =>
      complain call (literal word ++ " is not a valid positive integer".toList)
      pure false
  pure (statusOf (results.all id))

end CodeNavigator.Utility
