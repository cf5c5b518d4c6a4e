/-
This file fills templates. A template is a text with escapes for special characters and with places
for arguments, which are shown as texts or as numbers. A template is used again as long as arguments
are left, and a place without an argument shows nothing, or zero. What is wrong with an argument is
remarked on, and filling goes on; a place that makes no sense ends it.
-/

import CodeNavigator.Shell.Arithmetic
import CodeNavigator.Text.Floating

namespace CodeNavigator.Shell

/-! ### Escapes -/

/-- The character with a number, as one byte. -/
def byteCharacter (number : Nat) : Char :=
  Char.ofNat (number % 256)

/-- The escapes of a shell: which there are besides the common ones, and whether numbers in base
sixteen announce characters. -/
structure EscapeStyle where
  hasExtras : Bool
  isArgument : Bool

/-- The escape at the beginning of a text that stands behind a backslash, and what follows it. -/
def readEscape (style : EscapeStyle) (text : ByteText) : ByteText × ByteText :=
  match text with
  | [] => (['\\'], [])
  | first :: rest =>
    let start := if style.isArgument && first = '0' then rest else text
    let digits := leadingDigits 8 3 start
    let hexadecimal := leadingDigits 16 2 rest
    if !digits.isEmpty || (style.isArgument && first = '0') then
      ([byteCharacter (digitsValue 8 digits)], start.drop digits.length)
    else if style.hasExtras && first = 'x' && !hexadecimal.isEmpty then
      ([byteCharacter (digitsValue 16 hexadecimal)], rest.drop hexadecimal.length)
    else if style.hasExtras && (first = 'u' || first = 'U') then
      let digits := leadingDigits 16 (if first = 'u' then 4 else 8) rest
      (ByteText.ofString (String.ofList [Char.ofNat (digitsValue 16 digits)]),
        rest.drop digits.length)
    else
      match letterEscapes.find? fun entry => entry.1 = first with
      | some (_, character) => ([character], rest)
      | none =>
        if style.hasExtras && !style.isArgument && (first = '"' || first = '\'') then
          ([first], rest)
        else (['\\'], text)

/-- Replace the escapes in a text. The second part says whether an escape ended the text. -/
def unescape (style : EscapeStyle) : Nat → ByteText → ByteText × Bool
  | 0, text => (text, false)
  | limit + 1, text =>
    match text with
    | [] => ([], false)
    | '\\' :: rest =>
      if style.isArgument && rest.head? = some 'c' then ([], true)
      else
        let (character, after) := readEscape style rest
        let (others, isEnded) := unescape style limit after
        (character ++ others, isEnded)
    | character :: rest =>
      let (others, isEnded) := unescape style limit rest
      (character :: others, isEnded)

/-- The text of an argument in which escapes count. -/
def unescapeArgument (hasExtras : Bool) (text : ByteText) : ByteText × Bool :=
  unescape ⟨hasExtras, true⟩ (text.length + 1) text

/-! ### Places -/

/-- How a place shows its argument. -/
structure Display where
  isLeft : Bool
  isZeroFilled : Bool
  lead : ByteText
  isAlternate : Bool
  width : Nat
  precision : Option Nat

/-- The display that flags ask for. -/
def Display.ofFlags (flags : ByteText) : Display where
  isLeft := flags.contains '-'
  isZeroFilled := flags.contains '0'
  lead := if flags.contains '+' then ['+'] else if flags.contains ' ' then [' '] else []
  isAlternate := flags.contains '#'
  width := 0
  precision := none

/-- Text filled up to the width, with the sign before the zeros. -/
def Display.fill (display : Display) (mayZero : Bool) (sign text : ByteText) : ByteText :=
  let missing := display.width - (sign.length + text.length)
  if display.isLeft then sign ++ text ++ List.replicate missing ' '
  else if mayZero && display.isZeroFilled then sign ++ List.replicate missing '0' ++ text
  else List.replicate missing ' ' ++ sign ++ text

/-- Show a text. -/
def Display.showText (display : Display) (text : ByteText) : ByteText :=
  display.fill false [] (match display.precision with
    | some precision => text.take precision
    | none => text)

/-- The digits of a number in a base. -/
def digitsOf (base : Nat) (isUpper : Bool) (number : Nat) : ByteText :=
  let digits := Nat.toDigits base number
  if isUpper then digits.map Char.toUpper else digits

/-- Show the size of a whole number in a base, with what stands before it. -/
def Display.showDigits (display : Display) (base : Nat) (isUpper : Bool) (sign : ByteText)
    (number : Nat) : ByteText :=
  let digits := if number = 0 && display.precision = some 0 then []
    else digitsOf base isUpper number
  let filled := ByteText.padLeft '0' (display.precision.getD 0) digits
  let announced := if display.isAlternate && base = 8 && filled.head? ≠ some '0' then '0' :: filled
    else filled
  let announcement := if display.isAlternate && base = 16 && number ≠ 0 then
    if isUpper then ['0', 'X'] else ['0', 'x'] else []
  display.fill display.precision.isNone (sign ++ announcement) announced

/-- Show a number with a sign. -/
def Display.showSigned (display : Display) (value : Int) : ByteText :=
  display.showDigits 10 false (if value < 0 then ['-'] else display.lead) value.natAbs

/-- Show a floating-point number. -/
def Display.showFloat (display : Display) (letter : Char) (value : Float) : ByteText :=
  let sign := if Floating.isNegative value && !value.isNaN then ['-'] else display.lead
  display.fill (value.isFinite) sign
    (Floating.write letter (display.precision.getD 6) display.isAlternate value)

/-! ### Numbers in arguments -/

/-- What is remarked on a number. -/
inductive Remark
  | notNumeric (text : ByteText)
  | notConverted (text : ByteText)
  | outOfRange (text : ByteText)
  | invalidDirective (text : ByteText)
  | missingCharacter
deriving DecidableEq

/-- The number that a mark before a character stands for: that of the character. -/
def characterNumber? (text : ByteText) : Option Nat :=
  match text with
  | mark :: rest =>
    if mark = '"' || mark = '\'' then some ((rest.head?.map Char.toNat).getD 0) else none
  | [] => none

/-- What is remarked on an argument of which something is left. -/
def remarkOn (text : ByteText) (found : Bool) (rest : ByteText) (isInRange : Bool) :
    Option Remark :=
  if !found then if text.isEmpty then none else some (.notNumeric text)
  else if !rest.isEmpty then some (.notConverted text)
  else if !isInRange then some (.outOfRange text)
  else none

/-- The whole number that an argument writes, between two bounds. -/
def readWhole (low high : Int) (text : ByteText) : Int × Option Remark :=
  match characterNumber? text with
  | some number => (number, none)
  | none =>
    match Arithmetic.readInteger text with
    | some (value, rest) =>
      (max low (min high value), remarkOn text true rest (low ≤ value && value ≤ high))
    | none => (0, remarkOn text false [] true)

/-- The word of 64 bits that an argument writes. -/
def readWord (text : ByteText) : Nat × Option Remark :=
  let (value, remark) := readWhole (-(Int.pow 2 64 - 1)) (Int.pow 2 64 - 1) text
  ((value % Int.pow 2 64).toNat, remark)

/-- The floating-point number that an argument writes. -/
def readFloat (text : ByteText) : Float × Option Remark :=
  match characterNumber? text with
  | some number => (Float.ofNat number, none)
  | none =>
    match Floating.read text with
    | some (value, rest) => (value, remarkOn text true rest true)
    | none => (0, remarkOn text false [] true)

/-! ### Filling -/

/-- The state of filling: what was written, the latest first, the arguments that are left, and the
remarks, the latest first. -/
structure Filling where
  written : List ByteText
  arguments : List ByteText
  remarks : List Remark

namespace Filling

def write (filling : Filling) (text : ByteText) : Filling :=
  { filling with written := text :: filling.written }

def remarkOn (filling : Filling) (remark : Option Remark) : Filling :=
  { filling with remarks := remark.toList ++ filling.remarks }

/-- Take the next argument. -/
def next (filling : Filling) : Option ByteText × Filling :=
  (filling.arguments.head?, { filling with arguments := filling.arguments.tail })

/-- Take the next argument as a width or a precision. -/
def nextNumber (filling : Filling) : Int × Filling :=
  let (argument, after) := filling.next
  let (value, remark) := readWhole (-Int.pow 2 63) (Int.pow 2 63 - 1) (argument.getD [])
  (value, after.remarkOn remark)

end Filling

/-- How filling goes on after a part of the template. -/
inductive Course
  | going (filling : Filling) (rest : ByteText)
  | ended (filling : Filling)
  | failed (filling : Filling)

/-- Whether a character stands for a width or a precision. -/
def isMeasure (character : Char) : Bool :=
  character.isDigit || character = '*'

/-- Read a width or a precision, which may be an argument. -/
def readMeasure (filling : Filling) (text : ByteText) : Option Int × Filling × ByteText :=
  match text with
  | '*' :: rest =>
    let (value, after) := filling.nextNumber
    (some value, after, rest)
  | _ =>
    let digits := text.takeWhile Char.isDigit
    (if digits.isEmpty then none else some (Text.digitsValue digits : Int), filling,
      text.drop digits.length)

/-- Show the next argument in a place. -/
def fillPlace (hasExtras : Bool) (display : Display) (directive : ByteText) (letter : Char)
    (filling : Filling) (rest : ByteText) : Course :=
  let (argument, after) := filling.next
  let text := argument.getD []
  let shown (output : ByteText) (remark : Option Remark) : Course :=
    .going ((after.write output).remarkOn remark) rest
  let unsigned (base : Nat) (isUpper : Bool) : Course :=
    let (value, remark) := readWord text
    shown (display.showDigits base isUpper [] value) remark
  match letter with
  | 's' => shown (display.showText text) none
  | 'b' =>
    let (output, isEnded) := unescapeArgument hasExtras text
    let written := after.write (display.showText output)
    if isEnded then .ended written else .going written rest
  | 'c' =>
    let character := if hasExtras then text.take 1 else [text.head?.getD '\x00']
    shown (display.fill false [] character) none
  | 'd' | 'i' =>
    let (value, remark) := readWhole (-Int.pow 2 63) (Int.pow 2 63 - 1) text
    shown (display.showSigned value) remark
  | 'u' => unsigned 10 false
  | 'o' => unsigned 8 false
  | 'x' => unsigned 16 false
  | 'X' => unsigned 16 true
  | 'e' | 'E' | 'f' | 'F' | 'g' | 'G' =>
    let (value, remark) := readFloat text
    shown (display.showFloat letter value) remark
  | _ => .failed (filling.remarkOn (some (.invalidDirective directive)))

/-- Fill the place that a percent sign announces. -/
def fillDirective (hasExtras : Bool) (filling : Filling) (text : ByteText) : Course :=
  let flags := text.takeWhile fun character => ['#', '-', '+', ' ', '0'].contains character
  let (width, filling, afterWidth) := readMeasure filling (text.drop flags.length)
  let (precision, filling, afterPrecision) : Option Int × Filling × ByteText :=
    match afterWidth with
    | '.' :: rest =>
      let (precision, filling, after) := readMeasure filling rest
      (some (precision.getD 0), filling, after)
    | rest => (none, filling, rest)
  let asked := width.getD 0
  let plain := Display.ofFlags flags
  let display : Display := { plain with
    isLeft := plain.isLeft || asked < 0
    width := asked.natAbs
    precision := precision.bind fun value => if value < 0 then none else some value.toNat }
  match afterPrecision with
  | [] => .failed (filling.remarkOn (some .missingCharacter))
  | letter :: rest =>
    let length := text.length - rest.length
    fillPlace hasExtras display ('%' :: text.take length) letter filling rest

/-- Fill a template once. -/
def fillOnce (hasExtras : Bool) : Nat → Filling → ByteText → Course
  | 0, filling, _ => .ended filling
  | limit + 1, filling, text =>
    match text with
    | [] => .going filling []
    | '%' :: '%' :: rest => fillOnce hasExtras limit (filling.write ['%']) rest
    | '%' :: rest =>
      match fillDirective hasExtras filling rest with
      | .going filled after => fillOnce hasExtras limit filled after
      | course => course
    | '\\' :: rest =>
      let (character, after) := readEscape ⟨hasExtras, false⟩ rest
      fillOnce hasExtras limit (filling.write character) after
    | character :: rest => fillOnce hasExtras limit (filling.write [character]) rest

/-- Fill a template as often as there are arguments for it. -/
def fillAgain (hasExtras : Bool) (template : ByteText) : Nat → Filling → Course
  | 0, filling => .ended filling
  | limit + 1, filling =>
    match fillOnce hasExtras (template.length + 1) filling template with
    | .going after _ =>
      if after.arguments.isEmpty || after.arguments.length = filling.arguments.length then
        .ended after
      else fillAgain hasExtras template limit after
    | course => course

/-- What a template gives with some arguments: the text, the remarks in order, and whether it could
be filled. -/
def fillTemplate (hasExtras : Bool) (template : ByteText) (arguments : List ByteText) :
    ByteText × List Remark × Bool :=
  let result (filling : Filling) (isWhole : Bool) :=
    (filling.written.reverse.flatten, filling.remarks.reverse, isWhole)
  match fillAgain hasExtras template (arguments.length + 1) ⟨[], arguments, []⟩ with
  | .going filling _ => result filling true
  | .ended filling => result filling true
  | .failed filling => result filling false

end CodeNavigator.Shell
