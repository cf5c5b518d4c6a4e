/-
This file defines the programs that write bytes in other forms: their digests, their check sums, and
the bytes themselves in letters and digits that survive anywhere.
-/

import CodeNavigator.Text.Digest
import CodeNavigator.Utility.Basic

namespace CodeNavigator.Utility

/-! ### Digests -/

/-- A byte in two digits. -/
def hexByte (byte : UInt8) : ByteText :=
  ByteText.padLeft '0' 2 (Nat.toDigits 16 byte.toNat)

/-- A digest: what its lines are called, how many digits it has, and how it is computed. -/
structure DigestKind where
  title : String
  width : Nat
  compute : List UInt8 → List UInt8

/-- The digest of some bytes in digits. -/
def DigestKind.digits (kind : DigestKind) (text : ByteText) : ByteText :=
  (kind.compute (ByteText.toBytes text)).flatMap hexByte

/-- The options of the programs that compute digests. -/
def digestOptions : OptionSet where
  letters := "bctwz"
  names := [("binary", .nothing, 'b'), ("check", .nothing, 'c'), ("ignore-missing", .nothing, 'i'),
    ("quiet", .nothing, 'q'), ("status", .nothing, 's'), ("strict", .nothing, 'S'),
    ("tag", .nothing, 'T'), ("text", .nothing, 't'), ("warn", .nothing, 'w'),
    ("zero", .nothing, 'z')]

/-- A name as it stands in the lines of digests, with a mark on names that need escapes. -/
def digestName (name : ByteText) : ByteText × ByteText :=
  let isPlain := name.all fun character => character ≠ '\\' && character ≠ '\n' && character ≠ '\r'
  if isPlain then ([], name)
  else
    (['\\'], name.flatMap fun character =>
      match character with
      | '\\' => ['\\', '\\']
      | '\n' => ['\\', 'n']
      | '\r' => ['\\', 'r']
      | other => [other])

/-- The line for the digest of an input. -/
def digestLine (kind : DigestKind) (chosen : Chosen) (name text : ByteText) : ByteText :=
  let (mark, shownName) := if chosen.has 'z' then ([], name) else digestName name
  let digits := kind.digits text
  let lineEnd := if chosen.has 'z' then '\x00' else '\n'
  if chosen.has 'T' then
    mark ++ kind.title.toList ++ " (".toList ++ shownName ++ ") = ".toList ++ digits ++ [lineEnd]
  else
    mark ++ digits ++ [' ', if chosen.has 'b' then '*' else ' '] ++ shownName ++ [lineEnd]

/-- The digits and the name in a line that tells of a digest. -/
def readDigestLine? (kind : DigestKind) (line : ByteText) : Option (ByteText × ByteText) :=
  let isDigits (digits : ByteText) : Bool :=
    digits.length = kind.width && digits.all fun digit =>
      digit.isDigit || ('a' ≤ digit && digit ≤ 'f') || ('A' ≤ digit && digit ≤ 'F')
  match (kind.title.toList ++ " (".toList).isPrefixOf? line with
  | some rest =>
    let digits := (rest.reverse.takeWhile (· ≠ ' ')).reverse
    let name := rest.take (rest.length - digits.length - 4)
    if isDigits digits && rest = name ++ ") = ".toList ++ digits then some (digits, name) else none
  | none =>
    let digits := line.take kind.width
    match line.drop kind.width with
    | ' ' :: mark :: name =>
      if isDigits digits && !name.isEmpty then
        if mark = ' ' || mark = '*' then some (digits, name) else some (digits, mark :: name)
      else none
    | _ => none

/-- What became of the lines that were checked: how many were told, badly formed, could not be read,
and did not agree. -/
structure Checked where
  read : Nat
  misshapen : Nat
  unreadable : Nat
  unequal : Nat

/-- Check one line that tells of a digest. -/
def checkDigest (kind : DigestKind) (call : Call) (chosen : Chosen) (checked : Checked)
    (line : ByteText) : Job Checked := do
  match readDigestLine? kind line with
  | none => pure { checked with misshapen := checked.misshapen + 1 }
  | some (digits, name) =>
    let isSilent := chosen.has 's'
    match ← readInput name with
    | .error error =>
      if chosen.has 'i' && error = .noSuchFile then pure checked
      else
        complain call (fault (shown name) error)
        if !isSilent then emit call (name ++ ": FAILED open or read\n".toList)
        pure { checked with read := checked.read + 1, unreadable := checked.unreadable + 1 }
    | .ok text =>
      let isEqual := kind.digits text = digits.map Char.toLower
      if !isSilent && !(isEqual && chosen.has 'q') then
        emit call (name ++ (if isEqual then ": OK\n" else ": FAILED\n").toList)
      pure { checked with
        read := checked.read + 1
        unequal := checked.unequal + if isEqual then 0 else 1 }

/-- A number with the words for one or for several. -/
def counted (number : Nat) (one several : String) : ByteText :=
  ByteText.ofNat number ++ ' ' :: (if number = 1 then one else several).toList

/-- Check the lines of an input, and tell whether all is well. -/
def checkDigests (kind : DigestKind) (call : Call) (chosen : Chosen) (name text : ByteText) :
    Job Bool := do
  let lines := (ByteText.lines text).filter fun line => !line.isEmpty && line.head? ≠ some '#'
  let checked ← lines.foldlM (checkDigest kind call chosen) ⟨0, 0, 0, 0⟩
  let source := if name = ['-'] then "'standard input'".toList else shown name
  let say (message : ByteText) : Job Unit :=
    if chosen.has 's' then pure () else complain call ("WARNING: ".toList ++ message)
  if checked.read = 0 && checked.misshapen = lines.length then
    complain call (source ++ ": no properly formatted checksum lines found".toList)
    pure false
  else
    if 0 < checked.misshapen then
      say (counted checked.misshapen "line is improperly formatted" "lines are improperly formatted")
    if 0 < checked.unreadable then
      say (counted checked.unreadable "listed file could not be read"
        "listed files could not be read")
    if 0 < checked.unequal then
      say (counted checked.unequal "computed checksum did NOT match"
        "computed checksums did NOT match")
    if checked.read = 0 then
      complain call (source ++ ": no file was verified".toList)
    pure (0 < checked.read && checked.unreadable = 0 && checked.unequal = 0 &&
      !(chosen.has 'S' && 0 < checked.misshapen))

/-- Write the digests of the inputs, or check those that the inputs tell. -/
def digestWith (kind : DigestKind) : Utility := fun call => do
  let (chosen, operands) ← readOptions call 1 digestOptions
  let mut isWell := true
  for operand in inputsOf operands do
    match ← readInput operand with
    | .error error =>
      complain call (fault (shown operand) error)
      isWell := false
    | .ok text =>
      if chosen.has 'c' then
        if !(← checkDigests kind call chosen operand text) then isWell := false
      else emit call (digestLine kind chosen operand text)
  pure (statusOf isWell)

/-- The programs that compute digests. -/
def digestPrograms : List (String × Utility) :=
  [("md5sum", digestWith ⟨"MD5", 32, Text.Digest.four⟩),
    ("sha1sum", digestWith ⟨"SHA1", 40, Text.Digest.five⟩),
    ("sha224sum", digestWith ⟨"SHA224", 56, Text.Digest.bits224⟩),
    ("sha256sum", digestWith ⟨"SHA256", 64, Text.Digest.bits256⟩),
    ("sha384sum", digestWith ⟨"SHA384", 96, Text.Digest.bits384⟩),
    ("sha512sum", digestWith ⟨"SHA512", 128, Text.Digest.bits512⟩)]

/-! ### Check sums -/

/-- Write a line for each input. -/
def lineForEach (call : Call) (operands : List ByteText) (line : ByteText → ByteText) : Job Nat := do
  let mut isWell := true
  for operand in inputsOf operands do
    match ← readInput operand with
    | .error error =>
      complain call (fault (shown operand) error)
      isWell := false
    | .ok text =>
      let name := if operands.isEmpty then [] else ' ' :: operand
      emit call (line text ++ name ++ ['\n'])
  pure (statusOf isWell)

/-- Write the check sum and the length of each input. -/
def cksum : Utility := fun call => do
  let (_, operands) ← readOptions call 1 (.of "" [])
  lineForEach call operands fun text =>
    ByteText.ofNat (Text.Digest.checkSum (ByteText.toBytes text)) ++ ' ' ::
      ByteText.ofNat text.length

/-- Write the sum of the bytes of each input and how many blocks it fills. -/
def sum : Utility := fun call => do
  let (chosen, operands) ← readOptions call 1
    (.of "rs" [("sysv", .nothing, 's')])
  lineForEach call operands fun text =>
    let bytes := ByteText.toBytes text
    if chosen.last? ['r', 's'] = some 's' then
      let total := bytes.foldl (fun total byte => total + byte.toNat) 0
      let folded := total % 65536 + (total % 4294967296) / 65536
      ByteText.ofNat (folded % 65536 + folded / 65536) ++ ' ' ::
        ByteText.ofNat ((text.length + 511) / 512)
    else
      ByteText.padLeft '0' 5 (ByteText.ofNat (Text.Digest.turningSum bytes)) ++ ' ' ::
        ByteText.padLeft ' ' 5 (ByteText.ofNat ((text.length + 1023) / 1024))

/-! ### Bytes in letters and digits -/

/-- A way to write bytes: so many bits for each letter, letters for groups of so many bytes. -/
structure Lettering where
  letters : List Char
  bits : Nat
  group : Nat

/-- The lettering of six bits. -/
def sixBits : Lettering where
  letters := "ABCDEFGHIJKLMNOPQRSTUVWXYZabcdefghijklmnopqrstuvwxyz0123456789+/".toList
  bits := 6
  group := 3

/-- The lettering of five bits. -/
def fiveBits : Lettering where
  letters := "ABCDEFGHIJKLMNOPQRSTUVWXYZ234567".toList
  bits := 5
  group := 5

/-- How many letters a whole group has. -/
def Lettering.groupLength (lettering : Lettering) : Nat :=
  lettering.group * 8 / lettering.bits

/-- The letters for a group of bytes, filled up if it is not whole. -/
def Lettering.encodeGroup (lettering : Lettering) (bytes : List UInt8) : ByteText :=
  let bits := lettering.group * 8
  let value := Text.Digest.numberOf bytes * Nat.pow 256 (lettering.group - bytes.length)
  let used := (8 * bytes.length + lettering.bits - 1) / lettering.bits
  let letters := (List.range used).map fun index =>
    let digit := value / Nat.pow 2 (bits - lettering.bits * (index + 1)) % Nat.pow 2 lettering.bits
    lettering.letters.getD digit '='
  letters ++ List.replicate (lettering.groupLength - used) '='

/-- The letters for some bytes. -/
def Lettering.encode (lettering : Lettering) (bytes : List UInt8) : ByteText :=
  let count := (bytes.length + lettering.group - 1) / lettering.group
  (Text.Digest.rows lettering.group count bytes).flatMap lettering.encodeGroup

/-- The bytes that a group of letters stands for. -/
def Lettering.decodeGroup (lettering : Lettering) (letters : ByteText) : Option (List UInt8) := do
  let used := letters.takeWhile (· ≠ '=')
  let count := used.length * lettering.bits / 8
  let isFilled := letters.length = lettering.groupLength &&
    (letters.drop used.length).all (· = '=') &&
    used.length = (8 * count + lettering.bits - 1) / lettering.bits && 0 < count
  let values ← used.mapM fun letter => lettering.letters.findIdx? (· = letter)
  let value := values.foldl (fun value digit => value * Nat.pow 2 lettering.bits + digit) 0
  let spare := used.length * lettering.bits - 8 * count
  if isFilled then some (Text.Digest.bytesOf count (value / Nat.pow 2 spare)) else none

/-- The bytes that letters stand for, and whether all letters make sense. -/
def Lettering.decode (lettering : Lettering) : Nat → ByteText → List UInt8 × Bool
  | 0, _ => ([], true)
  | limit + 1, letters =>
    if letters.isEmpty then ([], true)
    else
      match lettering.decodeGroup (letters.take lettering.groupLength) with
      | some bytes =>
        let (rest, isWhole) := lettering.decode limit (letters.drop lettering.groupLength)
        (bytes ++ rest, isWhole)
      | none =>
        let valid := (letters.take lettering.groupLength).takeWhile lettering.letters.contains
        let count := valid.length * lettering.bits / 8
        let value := valid.foldl (fun value letter =>
          value * Nat.pow 2 lettering.bits + (lettering.letters.findIdx? (· = letter)).getD 0) 0
        let spare := valid.length * lettering.bits - 8 * count
        (Text.Digest.bytesOf count (value / Nat.pow 2 spare), false)

/-- A text in lines of some width, each with its end. -/
def inLines (width : Nat) : Nat → ByteText → ByteText
  | 0, _ => []
  | limit + 1, text =>
    if text.isEmpty then []
    else text.take width ++ '\n' :: inLines width limit (text.drop width)

/-- Write bytes in letters, or read them back. -/
def letteringWith (lettering : Lettering) : Utility := fun call => do
  let (chosen, operands) ← readOptions call 1 (.of "diw:"
    [("decode", .nothing, 'd'), ("ignore-garbage", .nothing, 'i'), ("wrap", .required, 'w')])
  let width ← match chosen.value? 'w' with
    | none => pure 76
    | some text =>
      match Text.readDigits text with
      | some width => pure width
      | none => fail call 1 ("invalid wrap size: ".toList ++ literal text)
  match operands with
  | _ :: other :: _ => refuseOperand call other
  | _ =>
    let source := operands.head?.getD ['-']
    match ← readInput source with
    | .error error => fail call 1 (fault (shown source) error)
    | .ok text =>
      if chosen.has 'd' then
        let isLetter (character : Char) : Bool :=
          lettering.letters.contains character || character = '='
        let letters := if chosen.has 'i' then text.filter isLetter else text.filter (· ≠ '\n')
        let (bytes, isWhole) := lettering.decode (letters.length + 1) letters
        emit call (ByteText.ofBytes bytes)
        if isWhole then pure 0 else fail call 1 "invalid input".toList
      else
        let letters := lettering.encode (ByteText.toBytes text)
        emit call (if width = 0 then letters else inLines width (letters.length + 1) letters)
        pure 0

end CodeNavigator.Utility
