/-
This file defines the program that shows bytes as numbers or characters. The input is cut into rows of
one width, and each row is shown once for every form that is asked for, behind its position. Forms of
different widths are spread out so that their columns stand below each other. A row that is the same
as the one before it is left out, with a mark in its place.
-/

import CodeNavigator.Text.Digest
import CodeNavigator.Utility.Basic

namespace CodeNavigator.Utility

namespace Dump

/-! ### Forms -/

/-- How an item of a form is written. -/
inductive Writing
  | digits (base : Nat)
  | signed
  | unsigned
  | characters
  | names

/-- A form: how many bytes an item has, how wide it is, how it is written, and whether the characters
of a row are shown behind it. -/
structure Form where
  size : Nat
  width : Nat
  writing : Writing
  showsText : Bool

/-- How many digits a number of so many bytes has. -/
def digitCount (base size : Nat) : Nat :=
  (Nat.toDigits base (Nat.pow 256 size - 1)).length

/-- A form of numbers. -/
def Form.numbers (size : Nat) (writing : Writing) : Form where
  size := size
  width := match writing with
    | .digits base => digitCount base size
    | .signed => (Nat.toDigits 10 (Nat.pow 256 size / 2)).length + 1
    | .unsigned => digitCount 10 size
    | _ => 3
  writing := writing
  showsText := false

/-- The characters that have a letter behind a backslash. -/
def letters : List (Nat × Char) :=
  [(0, '0'), (7, 'a'), (8, 'b'), (9, 't'), (10, 'n'), (11, 'v'), (12, 'f'), (13, 'r')]

/-- The names of the controls. -/
def controlNames : List String :=
  ["nul", "soh", "stx", "etx", "eot", "enq", "ack", "bel", "bs", "ht", "nl", "vt", "ff", "cr", "so",
    "si", "dle", "dc1", "dc2", "dc3", "dc4", "nak", "syn", "etb", "can", "em", "sub", "esc", "fs",
    "gs", "rs", "us", "sp"]

/-- An item of a form, without the blanks before it. -/
def Form.item (form : Form) (bytes : List UInt8) : ByteText :=
  let value := Text.Digest.numberOf bytes.reverse
  let byte := (bytes.head?.map UInt8.toNat).getD 0
  match form.writing with
  | .digits base => ByteText.padLeft '0' form.width (Nat.toDigits base value)
  | .unsigned => ByteText.ofNat value
  | .signed =>
    let range := Nat.pow 256 form.size
    ByteText.ofInt (if value < range / 2 then value else (value : Int) - range)
  | .characters =>
    match letters.find? fun entry => entry.1 = byte with
    | some (_, letter) => ['\\', letter]
    | none =>
      if 32 ≤ byte && byte < 127 then [Char.ofNat byte]
      else ByteText.padLeft '0' 3 (Nat.toDigits 8 byte)
  | .names =>
    let low := byte % 128
    if low = 127 then "del".toList
    else
      match controlNames[low]? with
      | some name => name.toList
      | none => [Char.ofNat low]

/-! ### Reading forms -/

/-- The size that a letter stands for, for whole numbers. -/
def sizeOf? (letter : Char) : Option Nat :=
  match letter with
  | 'C' => some 1
  | 'S' => some 2
  | 'I' => some 4
  | 'L' => some 8
  | _ => none

/-- Why a text names no forms. -/
inductive Fault
  | unknown (letter : Char)
  | badSize (size : ByteText)

/-- A size at the beginning of a text, or four bytes. -/
def readSize (text : ByteText) : Except Fault (Nat × ByteText) :=
  match text with
  | letter :: rest =>
    match sizeOf? letter with
    | some size => .ok (size, rest)
    | none =>
      let digits := text.takeWhile Char.isDigit
      match Text.readDigits digits with
      | none => .ok (4, text)
      | some size =>
        if [1, 2, 4, 8].contains size then .ok (size, text.drop digits.length)
        else .error (.badSize digits)
  | [] => .ok (4, [])

/-- The forms that a text names, one after the other. -/
def readForms : Nat → ByteText → Except Fault (List Form)
  | 0, _ => .ok []
  | limit + 1, text =>
    let goOn (form : Form) (rest : ByteText) : Except Fault (List Form) := do
      let showsText := rest.head? = some 'z'
      let others ← readForms limit (if showsText then rest.drop 1 else rest)
      pure ({ form with showsText := showsText } :: others)
    let number (writing : Writing) (rest : ByteText) : Except Fault (List Form) := do
      let (size, after) ← readSize rest
      goOn (.numbers size writing) after
    match text with
    | [] => .ok []
    | 'a' :: rest => goOn ⟨1, 3, .names, false⟩ rest
    | 'c' :: rest => goOn ⟨1, 3, .characters, false⟩ rest
    | 'd' :: rest => number .signed rest
    | 'o' :: rest => number (.digits 8) rest
    | 'u' :: rest => number .unsigned rest
    | 'x' :: rest => number (.digits 16) rest
    | other :: _ => .error (.unknown other)

/-- The forms that the short options ask for. -/
def shortForms : List (Char × String) :=
  [('a', "a"), ('b', "o1"), ('c', "c"), ('d', "u2"), ('i', "d4"), ('l', "d8"), ('o', "o2"),
    ('s', "d2"), ('x', "x2"), ('B', "o2"), ('D', "u4"), ('H', "x4"), ('I', "d8"), ('L', "d8"),
    ('O', "o4"), ('X', "x4"), ('h', "x2")]

/-! ### Rows -/

/-- How positions are shown: in a base with so many digits, or not at all. -/
structure Addressing where
  base : Nat
  width : Nat

/-- The row of a form: how wide a row is, how many bytes it should have, and those that it has. The
blanks are spread over the items. -/
def Form.row (form : Form) (blockWidth rowSize : Nat) (bytes : List UInt8) : ByteText :=
  let count := rowSize / form.size
  let pad := blockWidth - form.width * count
  let used := (bytes.length + form.size - 1) / form.size
  let filled := bytes ++ List.replicate (used * form.size - bytes.length) 0
  let items := Text.Digest.rows form.size used filled
  let shownItems := items.mapIdx fun index item =>
    let before := pad * (count - index) / count
    let after := pad * (count - index - 1) / count
    ByteText.padLeft ' ' (before - after + form.width) (form.item item)
  let shownText :=
    if form.showsText then
      let left := pad * (count - used) / count + form.width * (count - used)
      List.replicate left ' ' ++ "  >".toList ++ (bytes.map fun byte =>
        if 32 ≤ byte && byte < 127 then Char.ofNat byte.toNat else '.') ++ ['<']
    else []
  shownItems.flatten ++ shownText

/-- A position in front of a row. -/
def Addressing.shown (addressing : Option Addressing) (position : Nat) : ByteText :=
  match addressing with
  | some ⟨base, width⟩ => ByteText.padLeft '0' width (Nat.toDigits base position)
  | none => []

/-- The lines for rows of bytes. A row like the one before it is left out unless all are asked for. -/
def lines (addressing : Option Addressing) (forms : List Form) (rowSize : Nat) (showsAll : Bool) :
    Nat → Option (List UInt8) → Bool → List (List UInt8) → List ByteText
  | position, _, _, [] => if addressing.isSome then [Addressing.shown addressing position] else []
  | position, before, isMarked, bytes :: rest =>
    let blockWidth := (forms.map fun form =>
      (form.width + 1) * (rowSize / form.size)).foldl max 0
    let after := position + bytes.length
    if !showsAll && before = some bytes && bytes.length = rowSize then
      (if isMarked then [] else [['*']]) ++
        lines addressing forms rowSize showsAll after before true rest
    else
      let address := Addressing.shown addressing position
      let shownRows := forms.mapIdx fun index form =>
        (if index = 0 then address else List.replicate address.length ' ') ++
          form.row blockWidth rowSize bytes
      shownRows ++ lines addressing forms rowSize showsAll after (some bytes) false rest

/-! ### Numbers with units -/

/-- The factors that letters behind a number stand for. -/
def factors : List (String × Nat) :=
  [("b", 512), ("k", 1024), ("K", 1024), ("KiB", 1024), ("kB", 1000), ("KB", 1000),
    ("m", 1048576), ("M", 1048576), ("MB", 1000000), ("G", 1073741824), ("", 1)]

/-- A number of bytes, in the base that it announces and with a unit behind it. -/
def amount? (text : ByteText) : Option Nat := do
  let (base, digits) : Nat × ByteText := match text with
    | '0' :: 'x' :: rest | '0' :: 'X' :: rest => (16, rest)
    | '0' :: rest => (8, '0' :: rest)
    | other => (10, other)
  let isDigit (character : Char) : Bool :=
    ((Nat.toDigits base (base - 1)).head?.any fun last =>
      character.isDigit && (character ≤ last || base = 16)) ||
      (base = 16 && 'a' ≤ character.toLower && character.toLower ≤ 'f')
  let taken := digits.takeWhile isDigit
  if taken.isEmpty then none
  let value := taken.foldl (fun value digit =>
    value * base + (if digit.isDigit then digit.toNat - 48 else digit.toLower.toNat - 87)) 0
  let (_, factor) ← factors.find? fun entry => entry.1.toList = digits.drop taken.length
  pure (value * factor)

end Dump

/-- The options of `od`. -/
def odOptions : OptionSet where
  letters := "A:aBbcDdeFfhHIij:LlN:OoS:st:vw::Xx"
  names := [("address-radix", .required, 'A'), ("skip-bytes", .required, 'j'),
    ("read-bytes", .required, 'N'), ("strings", .optional, 'S'), ("format", .required, 't'),
    ("output-duplicates", .nothing, 'v'), ("width", .optional, 'w'),
    ("traditional", .nothing, '!')]

/-- The forms that the options ask for, in their order. -/
def dumpForms (call : Call) (chosen : Chosen) : Job (List Dump.Form) := do
  let texts := chosen.filterMap fun (letter, value) =>
    if letter = 't' then some value
    else (Dump.shortForms.find? fun entry => entry.1 = letter).map fun entry => entry.2.toList
  let mut forms := []
  for text in (if texts.isEmpty then ["o2".toList] else texts) do
    match Dump.readForms (text.length + 1) text with
    | .ok found => forms := forms ++ found
    | .error (.unknown letter) =>
      fail call 1 ("invalid character ".toList ++ literal [letter] ++ " in type string ".toList ++
        literal text)
    | .error (.badSize size) =>
      fail call 1 ("invalid type string ".toList ++ literal text ++
        ";\nthis system doesn't provide a ".toList ++ size ++ "-byte integral type".toList)
  pure forms

/-- Show bytes as numbers or characters. -/
def od : Utility := fun call => do
  let (chosen, operands) ← readOptions call 1 odOptions
  let addressing : Option Dump.Addressing ← match chosen.value? 'A' with
    | none | some ('o' :: _) => pure (some ⟨8, 7⟩)
    | some ('d' :: _) => pure (some ⟨10, 7⟩)
    | some ('x' :: _) => pure (some ⟨16, 6⟩)
    | some ('n' :: _) => pure none
    | some other =>
      fail call 1 ("invalid output address radix '".toList ++ other.take 1 ++
        "'; it must be one character from [doxn]".toList)
  let amount (letter : Char) : Job (Option Nat) := do
    match chosen.value? letter with
    | none => pure none
    | some text =>
      match Dump.amount? text with
      | some value => pure (some value)
      | none => fail call 1 ("invalid -".toList ++ letter :: " argument ".toList ++ literal text)
  let skipped ← amount 'j'
  let limit ← amount 'N'
  let forms ← dumpForms call chosen
  let unit := (forms.map Dump.Form.size).foldl max 1
  let standard := if unit ≤ 16 then 16 / unit * unit else unit
  let rowSize ← match chosen.value? 'w' with
    | none => pure standard
    | some [] => pure 32
    | some text =>
      match Dump.amount? text with
      | some (value + 1) =>
        if (value + 1) % unit = 0 then pure (value + 1)
        else
          complain call ("warning: invalid width ".toList ++ ByteText.ofNat (value + 1) ++
            "; using ".toList ++ ByteText.ofNat unit ++ " instead".toList)
          pure unit
      | _ => fail call 1 ("invalid -w argument ".toList ++ literal text)
  let mut text : ByteText := []
  let mut areRead := true
  let mut isAnyRead := false
  for operand in inputsOf operands do
    match ← readInput operand with
    | .ok found =>
      text := text ++ found
      isAnyRead := true
    | .error error =>
      complain call (fault (shown operand) error)
      areRead := false
  if isAnyRead then
    let start := skipped.getD 0
    if text.length < start then fail call 1 "cannot skip past end of combined input".toList
    let kept := text.drop start
    let bytes := ByteText.toBytes ((limit.map kept.take).getD kept)
    let rows := Text.Digest.rows rowSize ((bytes.length + rowSize - 1) / rowSize) bytes
    emitLines call (Dump.lines addressing forms rowSize (chosen.has 'v') start none false rows)
  pure (statusOf areRead)

end CodeNavigator.Utility
