/-
This file defines the programs that hand lines on: all of them, some from the beginning or the end,
numbered, turned around, folded or put beside each other.
-/

import CodeNavigator.Utility.Basic

namespace CodeNavigator.Utility

/-! ### Whole inputs -/

/-- The options of `cat`. -/
def catOptions : OptionSet where
  letters := "AbeEnstTuv"
  names := [("show-all", .nothing, 'A'), ("number-nonblank", .nothing, 'b'),
    ("show-ends", .nothing, 'E'), ("number", .nothing, 'n'), ("squeeze-blank", .nothing, 's'),
    ("show-tabs", .nothing, 'T'), ("show-nonprinting", .nothing, 'v')]

/-- A character in a form that can be seen. -/
def visible (character : Char) : ByteText :=
  let low (number : Nat) : ByteText :=
    if number < 32 then ['^', Char.ofNat (number + 64)]
    else if number = 127 then ['^', '?'] else [Char.ofNat number]
  if character = '\n' || character = '\t' then [character]
  else if character.toNat < 128 then low character.toNat
  else 'M' :: '-' :: low (character.toNat - 128)

/-- The lines that `cat` makes of lines, numbered from the given number on. -/
def catLines (numbersBlank numbersAll squeezes showsEnds showsTabs showsHidden : Bool) :
    Nat → Bool → List ByteText → ByteText
  | _, _, [] => []
  | number, wasBlank, line :: rest =>
    let isBlank := line = ['\n']
    if squeezes && wasBlank && isBlank then
      catLines numbersBlank numbersAll squeezes showsEnds showsTabs showsHidden number true rest
    else
      let isNumbered := numbersAll && !(numbersBlank && isBlank)
      let lead := if isNumbered then ByteText.padLeft ' ' 6 (ByteText.ofNat number) ++ ['\t'] else []
      let body := line.flatMap fun character =>
        if character = '\n' && showsEnds then ['$', '\n']
        else if character = '\t' && showsTabs then ['^', 'I']
        else if showsHidden then visible character else [character]
      lead ++ body ++ catLines numbersBlank numbersAll squeezes showsEnds showsTabs showsHidden
        (if isNumbered then number + 1 else number) isBlank rest

/-- Hand the inputs on. -/
def cat : Utility := fun call => do
  let (chosen, operands) ← readOptions call 1 catOptions
  let change (text : ByteText) : ByteText :=
    if (chosen.filter fun option => option.1 ≠ 'u').isEmpty then text
    else
      catLines (chosen.has 'b') (chosen.has 'n' || chosen.has 'b') (chosen.has 's')
        (chosen.has 'E' || chosen.has 'e' || chosen.has 'A')
        (chosen.has 'T' || chosen.has 't' || chosen.has 'A')
        (chosen.has 'v' || chosen.has 'e' || chosen.has 't' || chosen.has 'A')
        1 false (ByteText.linesWithEnds text)
  if chosen.isEmpty then
    let isRead ← forInputs call (fun _ text => emit call text) (inputsOf operands)
    pure (statusOf isRead)
  else filterInputs call operands change

/-- Hand the lines on, the last one first. -/
def tac : Utility := fun call => do
  let (_, operands) ← readOptions call 1 (.of "" [])
  let isRead ← forInputs call (fun _ text =>
    emit call (ByteText.linesWithEnds text).reverse.flatten) (inputsOf operands)
  pure (statusOf isRead)

/-- Hand the lines on, each from its end to its beginning. -/
def rev : Utility := fun call => do
  let (_, operands) ← readOptions call 1 (.of "" [])
  filterInputs call operands fun text =>
    (ByteText.linesWithEnds text).flatMap fun line =>
      let body := ByteText.withoutEnd line
      body.reverse ++ line.drop body.length

/-! ### Beginnings and ends -/

/-- The factors that letters behind a number mean. -/
def factors : List (String × Nat) :=
  [("", 1), ("b", 512), ("k", 1024), ("K", 1024), ("kB", 1000), ("KB", 1000), ("KiB", 1024),
    ("m", 1048576), ("M", 1048576), ("MB", 1000000), ("MiB", 1048576), ("G", 1073741824),
    ("GB", 1000000000), ("GiB", 1073741824)]

/-- The count that a text means, with a factor behind it. -/
def count? (text : ByteText) : Option Nat := do
  let digits := text.takeWhile Char.isDigit
  let number ← Text.readDigits digits
  let (_, factor) ← factors.find? fun entry => entry.1.toList = text.drop digits.length
  some (number * factor)

/-- The options of `head` and `tail`. -/
def endOptions (isTail : Bool) : OptionSet where
  letters := if isTail then "c:n:qvzfFs:" else "c:n:qvz"
  names := [("bytes", .required, 'c'), ("lines", .required, 'n'), ("quiet", .nothing, 'q'),
    ("silent", .nothing, 'q'), ("verbose", .nothing, 'v'), ("zero-terminated", .nothing, 'z')] ++
    if isTail then [("follow", .optional, 'f')] else []

/-- The old way of telling a number, as the new one. -/
def renewed (isTail : Bool) (arguments : List ByteText) : List ByteText :=
  match arguments with
  | (mark :: digits) :: rest =>
    let number := digits.takeWhile Char.isDigit
    let unit := digits.drop number.length
    let isOld := !number.isEmpty && (mark = '-' || (isTail && mark = '+'))
    let value := if mark = '+' then '+' :: number else number
    if isOld && unit.isEmpty then ['-', 'n'] :: value :: rest
    else if isOld && unit = ['c'] then ['-', 'c'] :: value :: rest
    else if isOld && unit = ['q'] then ['-', 'q'] :: ['-', 'n'] :: value :: rest
    else arguments
  | _ => arguments

/-- The units of a text that are counted: characters or lines. -/
def unitsOf (countsLines : Bool) (text : ByteText) : List ByteText :=
  if countsLines then ByteText.linesWithEnds text else text.map fun character => [character]

/-- Do something with each input, behind a header if there are several. -/
def forTitled (call : Call) (showsTitles : Bool) (describe : ByteText → SystemError → ByteText)
    (use : ByteText → ByteText) : Bool → List ByteText → Job Bool
  | _, [] => pure true
  | isFirst, operand :: rest => do
    let title := if operand = ['-'] then "standard input".toList else operand
    let header := (if isFirst then [] else ['\n']) ++ "==> ".toList ++ title ++ " <==\n".toList
    let isRead ← match ← readInput operand with
      | .ok text => do
        emit call ((if showsTitles then header else []) ++ use text)
        pure true
      | .error error => do
        if error = .isDirectory && showsTitles then emit call header
        complain call (describe operand error)
        pure false
    let next := isFirst && !isRead
    pure (isRead && (← forTitled call showsTitles describe use next rest))

/-- Why an input could not be opened or read. -/
def openingFault (operand : ByteText) (error : SystemError) : ByteText :=
  let name := quoted operand
  if error = .isDirectory then fault ("error reading ".toList ++ name) error
  else fault ("cannot open ".toList ++ name ++ " for reading".toList) error

/-- The count that an option asks for. -/
def readCount (call : Call) (countsLines : Bool) (text : ByteText) : Job Nat :=
  match count? text with
  | some number => pure number
  | none =>
    let unit := if countsLines then "lines" else "bytes"
    fail call 1 (ByteText.ofString ("invalid number of " ++ unit ++ ": ") ++ literal text)

/-- Take as much from the standard input as the first lines or characters of it, and no more. -/
def takeHead (countsLines : Bool) (count : Nat) : Job (Except SystemError ByteText) :=
  Job.readPart 0 fun text =>
    if countsLines then ((ByteText.linesWithEnds text).take count).foldl
      (fun length line => length + line.length) 0
    else count

/-- Hand on the beginnings of the inputs. -/
def head : Utility := fun call => do
  let (chosen, operands) ←
    readOptions { call with arguments := renewed false call.arguments } 1 (endOptions false)
  let last := (chosen.reverse.find? fun option => option.1 = 'c' || option.1 = 'n').getD
    ('n', ['1', '0'])
  let countsLines := last.1 = 'n'
  let isBackwards := last.2.head? = some '-'
  let count ← readCount call countsLines (if isBackwards then last.2.drop 1 else last.2)
  let inputs := inputsOf operands
  if inputs = [['-']] && !isBackwards && !chosen.has 'v' then
    match ← takeHead countsLines count with
    | .ok text =>
      emit call text
      pure 0
    | .error error =>
      complain call (openingFault "standard input".toList error)
      pure 1
  else
    let use (text : ByteText) : ByteText :=
      let units := unitsOf countsLines text
      (units.take (if isBackwards then units.length - count else count)).flatten
    let showsTitles := chosen.has 'v' || (1 < inputs.length && !chosen.has 'q')
    pure (statusOf (← forTitled call showsTitles openingFault use true inputs))

/-- Hand on the ends of the inputs. -/
def tail : Utility := fun call => do
  let (chosen, operands) ←
    readOptions { call with arguments := renewed true call.arguments } 1 (endOptions true)
  let last := (chosen.reverse.find? fun option => option.1 = 'c' || option.1 = 'n').getD
    ('n', ['1', '0'])
  let countsLines := last.1 = 'n'
  let isFromStart := last.2.head? = some '+'
  let isSigned := isFromStart || last.2.head? = some '-'
  let count ← readCount call countsLines (if isSigned then last.2.drop 1 else last.2)
  let use (text : ByteText) : ByteText :=
    let units := unitsOf countsLines text
    (units.drop (if isFromStart then count - 1 else units.length - count)).flatten
  let inputs := inputsOf operands
  let showsTitles := chosen.has 'v' || (1 < inputs.length && !chosen.has 'q')
  pure (statusOf (← forTitled call showsTitles openingFault use true inputs))

/-! ### Counts -/

/-- The options of `wc`. -/
def wcOptions : OptionSet where
  letters := "clLmw"
  names := [("bytes", .nothing, 'c'), ("chars", .nothing, 'm'), ("lines", .nothing, 'l'),
    ("words", .nothing, 'w'), ("max-line-length", .nothing, 'L')]

/-- The width of a line that is shown. -/
def shownWidth (line : ByteText) : Nat :=
  line.foldl (fun width character =>
    if character = '\t' then (width / 8 + 1) * 8
    else if isPrintable character then width + 1 else width) 0

/-- The counts of a text that are asked for. -/
def countsOf (letters : List Char) (text : ByteText) : List Nat :=
  let all : List (Char × Nat) :=
    [('l', text.count '\n'), ('w', (ByteText.words text).length), ('m', text.length),
      ('c', text.length), ('L', ((ByteText.lines text).map shownWidth).foldl max 0)]
  (all.filter fun entry => letters.contains entry.1).map Prod.snd

/-- A line of counts. -/
def countLine (width : Nat) (counts : List Nat) (name : ByteText) : ByteText :=
  let cells := counts.map fun count => ByteText.padLeft ' ' width (ByteText.ofNat count)
  Text.join ' ' (if name.isEmpty then cells else cells ++ [name])

/-- Count lines, words and characters. -/
def wc : Utility := fun call => do
  let (chosen, operands) ← readOptions call 1 wcOptions
  let letters := if chosen.isEmpty then ['l', 'w', 'c'] else chosen.map Prod.fst
  let inputs := inputsOf operands
  let found ← inputs.mapM fun operand => do
    match ← readInput operand with
    | .ok text => pure (operand, countsOf letters text, text.length, (none : Option SystemError))
    | .error error =>
      pure (operand, countsOf letters [], 0, some error)
  let sum := found.foldl (fun sum entry => sum + entry.2.2.1) 0
  let hasDirectory := found.any fun entry => entry.2.2.2 = some .isDirectory
  let readsInput := inputs.contains ['-']
  let isLone := inputs.length = 1 && letters.eraseDups.length = 1
  let width := if isLone then 1
    else if readsInput || hasDirectory then 7 else (ByteText.ofNat sum).length
  for (operand, counts, _, error) in found do
    let isLost := error.isSome && error ≠ some .isDirectory
    match error with
    | some error => complain call (fault (shown operand) error)
    | none => pure ()
    unless isLost do
      emitLines call [countLine width counts (if operands.isEmpty then [] else operand)]
  if 1 < inputs.length then
    let totals := found.foldl (fun totals entry =>
      if totals.isEmpty then entry.2.1 else (totals.zip entry.2.1).map fun pair => pair.1 + pair.2)
      ([] : List Nat)
    emitLines call [countLine width totals "total".toList]
  pure (statusOf (found.all fun entry => entry.2.2.2.isNone))

/-! ### Numbers, widths and columns -/

/-- The options of `nl`. -/
def nlOptions : OptionSet where
  letters := "b:h:f:v:i:s:w:n:pd:l:"
  names := [("body-numbering", .required, 'b'), ("starting-line-number", .required, 'v'),
    ("line-increment", .required, 'i'), ("number-separator", .required, 's'),
    ("number-width", .required, 'w'), ("number-format", .required, 'n')]

/-- Number lines: all of them, those that are not empty, or none. -/
def numberLines (style : ByteText) (step width : Nat) (format separator : ByteText) :
    Nat → List ByteText → ByteText
  | _, [] => []
  | number, line :: rest =>
    let isNumbered := style = ['a'] || (style = ['t'] && !line.isEmpty)
    let digits := ByteText.ofNat number
    let shownNumber := if format = "ln".toList then ByteText.padRight width digits
      else ByteText.padLeft (if format = "rz".toList then '0' else ' ') width digits
    let lead := if isNumbered then shownNumber ++ separator
      else List.replicate (width + separator.length) ' '
    lead ++ line ++ '\n' :: numberLines style step width format separator
      (if isNumbered then number + step else number) rest

/-- Number the lines of the inputs. -/
def nl : Utility := fun call => do
  let (chosen, operands) ← readOptions call 1 nlOptions
  let number (letter : Char) (standard : Nat) : Nat :=
    ((chosen.value? letter).bind Text.readDigits).getD standard
  filterInputs call operands fun text =>
    numberLines ((chosen.value? 'b').getD ['t']) (number 'i' 1) (number 'w' 6)
      ((chosen.value? 'n').getD "rn".toList) ((chosen.value? 's').getD ['\t']) (number 'v' 1)
      (ByteText.lines text)

/-- The options of `fold`. -/
def foldOptions : OptionSet where
  letters := "bsw:"
  names := [("bytes", .nothing, 'b'), ("spaces", .nothing, 's'), ("width", .required, 'w')]

/-- Divide a line into rows of a width, behind blanks if that is asked for. -/
def foldLine (width : Nat) (atBlanks : Bool) : Nat → ByteText → List ByteText
  | 0, line => [line]
  | limit + 1, line =>
    if line.length ≤ width then [line]
    else
      let row := line.take width
      let kept := if atBlanks then
          (row.reverse.dropWhile fun character => !ByteText.isBlank character).reverse
        else row
      let taken := if kept.isEmpty then row else kept
      taken :: foldLine width atBlanks limit (line.drop taken.length)

/-- Divide the lines of the inputs into rows. -/
def fold : Utility := fun call => do
  let (chosen, operands) ← readOptions call 1 foldOptions
  let asked := (chosen.value? 'w').getD "80".toList
  match Text.readDigits asked with
  | none => fail call 1 ("invalid number of columns: ".toList ++ literal asked)
  | some 0 => fail call 1 ("invalid number of columns: ".toList ++ literal asked)
  | some width =>
    filterInputs call operands fun text =>
      (ByteText.linesWithEnds text).flatMap fun line =>
        let body := ByteText.withoutEnd line
        Text.join '\n' (foldLine width (chosen.has 's') body.length body) ++
          line.drop body.length

/-- The options of `paste`. -/
def pasteOptions : OptionSet where
  letters := "d:sz"
  names := [("delimiters", .required, 'd'), ("serial", .nothing, 's')]

/-- The delimiters that a text asks for. An escaped zero asks for none. -/
def delimitersOf : ByteText → List ByteText
  | '\\' :: 'n' :: rest => ['\n'] :: delimitersOf rest
  | '\\' :: 't' :: rest => ['\t'] :: delimitersOf rest
  | '\\' :: '0' :: rest => [] :: delimitersOf rest
  | '\\' :: character :: rest => [character] :: delimitersOf rest
  | character :: rest => [character] :: delimitersOf rest
  | [] => []

/-- Cells in a row with the delimiters between them in turn. -/
def pasteRow (delimiters : List ByteText) (cells : List ByteText) : ByteText :=
  (cells.mapIdx fun index cell =>
    if index = 0 then cell
    else (delimiters[(index - 1) % (max 1 delimiters.length)]?).getD [] ++ cell).flatten

/-- The lines of each input, where the standard input is dealt out by turns. -/
def pasteColumns (inputs : List (ByteText × List ByteText)) : List (List ByteText) :=
  let shares := (inputs.filter fun input => input.1 = ['-']).length
  (inputs.foldl (fun (columns, index) (operand, lines) =>
    if operand = ['-'] then
      let own := (lines.mapIdx fun position line => (position, line)).filter fun entry =>
        entry.1 % shares = index
      (columns ++ [own.map Prod.snd], index + 1)
    else (columns ++ [lines], index)) (([] : List (List ByteText)), 0)).1

/-- Put the lines of the inputs beside each other, or those of each input in a row. -/
def paste : Utility := fun call => do
  let (chosen, operands) ← readOptions call 1 pasteOptions
  let delimiters := delimitersOf ((chosen.value? 'd').getD ['\t'])
  let inputs := inputsOf operands
  let standard ← if inputs.contains ['-'] then Job.readAll 0 else pure (.ok [])
  let lines ← inputs.mapM fun operand => do
    match ← (if operand = ['-'] then pure standard else Job.readPath operand) with
    | .ok text => pure (operand, ByteText.lines text)
    | .error error => fail call 1 (fault (shown operand) error)
  if chosen.has 's' then
    emitLines call (lines.map fun input => pasteRow delimiters input.2)
  else
    let columns := pasteColumns lines
    let height := (columns.map List.length).foldl max 0
    emitLines call ((List.range height).map fun row =>
      pasteRow delimiters (columns.map fun column => (column[row]?).getD []))
  pure 0

end CodeNavigator.Utility
