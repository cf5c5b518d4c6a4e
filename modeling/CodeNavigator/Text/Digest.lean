/-
This file computes digests of bytes. A digest works through the bytes in blocks: a state of a few
words is mixed with the words of each block in turn, and the last state is the digest. The last
block is filled up with a mark, zeros and the length of everything in bits.
-/

namespace CodeNavigator.Text.Digest

/-! ### Words -/

/-- Bytes that stand for a number, the most significant one first. -/
def numberOf (bytes : List UInt8) : Nat :=
  bytes.foldl (fun value byte => value * 256 + byte.toNat) 0

/-- A number in so many bytes, the most significant one first. -/
def bytesOf (count number : Nat) : List UInt8 :=
  ((List.range count).map fun index => UInt8.ofNat (number / Nat.pow 256 index)).reverse

/-- Rows of so many bytes, as many as given. -/
def rows (width : Nat) : Nat → List UInt8 → List (List UInt8)
  | 0, _ => []
  | count + 1, bytes => bytes.take width :: rows width count (bytes.drop width)

/-- Bytes filled up to whole blocks: a mark, zeros, and the length in bits at the end, in a field of
some width. -/
def filled (block field : Nat) (isLittle : Bool) (bytes : List UInt8) : List UInt8 :=
  let used := (bytes.length + 1 + field) % block
  let zeros := List.replicate ((block - used) % block) 0
  let length := bytesOf field (8 * bytes.length)
  bytes ++ 0x80 :: zeros ++ if isLittle then length.reverse else length

/-- A word of 32 bits turned to the left. -/
def turnLeft (word : UInt32) (count : UInt32) : UInt32 :=
  (word <<< count) ||| (word >>> (32 - count))

/-- A word of 32 bits turned to the right. -/
def turnRight (word : UInt32) (count : UInt32) : UInt32 :=
  (word >>> count) ||| (word <<< (32 - count))

/-- A word of 64 bits turned to the right. -/
def turnRightLong (word : UInt64) (count : UInt64) : UInt64 :=
  (word >>> count) ||| (word <<< (64 - count))

/-! ### Constants -/

/-- The largest number whose power is not above a bound, found bit by bit. -/
def rootBelow (power bound : Nat) : Nat → Nat → Nat
  | 0, found => found
  | bits + 1, found =>
    let larger := found + Nat.pow 2 bits
    rootBelow power bound bits (if Nat.pow larger power ≤ bound then larger else found)

/-- The first bits of the fraction of a root of a number. -/
def rootFraction (power width number : Nat) : Nat :=
  rootBelow power (number * Nat.pow 2 (power * width)) (width + 5) 0 % Nat.pow 2 width

/-- Whether a number is prime. -/
def isPrime (number : Nat) : Bool :=
  2 ≤ number && (List.range number).all fun divisor =>
    divisor < 2 || divisor * divisor > number || number % divisor ≠ 0

/-- The first eighty primes. -/
def primes : List Nat :=
  (List.range 410).filter isPrime

/-! ### Digests of four and of five words -/

/-- The sines of the first numbers, as fractions of 32 bits. -/
def sines : Array UInt32 :=
  ((List.range 64).map fun index =>
    ((Float.ofNat (index + 1)).sin.abs * 4294967296.0).toUInt64.toUInt32).toArray

/-- How far words are turned in each of the four rounds. -/
def turns : Array (Array UInt32) :=
  #[#[7, 12, 17, 22], #[5, 9, 14, 20], #[4, 11, 16, 23], #[6, 10, 15, 21]]

/-- A state of five words. Digests of four words leave the last one alone. -/
structure Five where
  first : UInt32
  second : UInt32
  third : UInt32
  fourth : UInt32
  fifth : UInt32

/-- The sum of two states, word by word. -/
def Five.add (left right : Five) : Five :=
  ⟨left.first + right.first, left.second + right.second, left.third + right.third,
    left.fourth + right.fourth, left.fifth + right.fifth⟩

/-- The state in which digests of four and of five words begin. -/
def Five.start : Five :=
  ⟨0x67452301, 0xefcdab89, 0x98badcfe, 0x10325476, 0xc3d2e1f0⟩

/-- One step of a digest of four words. -/
def stepFour (words : Array UInt32) (state : Five) (index : Nat) : Five :=
  let ⟨a, b, c, d, e⟩ := state
  let round := index / 16
  let (mixed, place) :=
    match round with
    | 0 => ((b &&& c) ||| (~~~b &&& d), index)
    | 1 => ((d &&& b) ||| (~~~d &&& c), (5 * index + 1) % 16)
    | 2 => (b ^^^ c ^^^ d, (3 * index + 5) % 16)
    | _ => (c ^^^ (b ||| ~~~d), (7 * index) % 16)
  let sum := a + mixed + sines.getD index 0 + words.getD place 0
  ⟨d, b + turnLeft sum ((turns.getD round #[]).getD (index % 4) 0), b, c, e⟩

/-- The digest of four words. -/
def four (bytes : List UInt8) : List UInt8 :=
  let text := filled 64 8 true bytes
  let state := (rows 64 (text.length / 64) text).foldl (fun state block =>
    let words := ((rows 4 16 block).map fun word => UInt32.ofNat (numberOf word.reverse)).toArray
    let mixed := (List.range 64).foldl (stepFour words) state
    { state.add mixed with fifth := state.fifth }) Five.start
  [state.first, state.second, state.third, state.fourth].flatMap fun word =>
    (bytesOf 4 word.toNat).reverse

/-- The words of a block, made longer by words that mix earlier ones. -/
def spread (block : List UInt8) : Array UInt32 :=
  (List.range 64).foldl (fun words index =>
    let at_ (back : Nat) : UInt32 := words.getD (16 + index - back) 0
    words.push (turnLeft (at_ 3 ^^^ at_ 8 ^^^ at_ 14 ^^^ at_ 16) 1))
    ((rows 4 16 block).map fun word => UInt32.ofNat (numberOf word)).toArray

/-- One step of the digest of five words. -/
def stepFive (words : Array UInt32) (state : Five) (index : Nat) : Five :=
  let ⟨a, b, c, d, e⟩ := state
  let (mixed, constant) : UInt32 × UInt32 :=
    match index / 20 with
    | 0 => ((b &&& c) ||| (~~~b &&& d), 0x5a827999)
    | 1 => (b ^^^ c ^^^ d, 0x6ed9eba1)
    | 2 => ((b &&& c) ||| (b &&& d) ||| (c &&& d), 0x8f1bbcdc)
    | _ => (b ^^^ c ^^^ d, 0xca62c1d6)
  ⟨turnLeft a 5 + mixed + e + constant + words.getD index 0, a, turnLeft b 30, c, d⟩

/-- The digest of five words. -/
def five (bytes : List UInt8) : List UInt8 :=
  let text := filled 64 8 false bytes
  let state := (rows 64 (text.length / 64) text).foldl (fun state block =>
    state.add ((List.range 80).foldl (stepFive (spread block)) state)) Five.start
  [state.first, state.second, state.third, state.fourth, state.fifth].flatMap fun word =>
    bytesOf 4 word.toNat

/-! ### Digests of eight words -/

/-- What digests of eight words do with words of one width. -/
structure Mixing (Word : Type) where
  rounds : Nat
  largeFirst : Word → Word
  largeSecond : Word → Word
  smallFirst : Word → Word
  smallSecond : Word → Word
  constants : Array Word

/-- The mixing of words of 32 bits. -/
def short : Mixing UInt32 where
  rounds := 64
  largeFirst word := turnRight word 2 ^^^ turnRight word 13 ^^^ turnRight word 22
  largeSecond word := turnRight word 6 ^^^ turnRight word 11 ^^^ turnRight word 25
  smallFirst word := turnRight word 7 ^^^ turnRight word 18 ^^^ (word >>> 3)
  smallSecond word := turnRight word 17 ^^^ turnRight word 19 ^^^ (word >>> 10)
  constants := ((primes.take 64).map fun prime => UInt32.ofNat (rootFraction 3 32 prime)).toArray

/-- The mixing of words of 64 bits. -/
def long : Mixing UInt64 where
  rounds := 80
  largeFirst word := turnRightLong word 28 ^^^ turnRightLong word 34 ^^^ turnRightLong word 39
  largeSecond word := turnRightLong word 14 ^^^ turnRightLong word 18 ^^^ turnRightLong word 41
  smallFirst word := turnRightLong word 1 ^^^ turnRightLong word 8 ^^^ (word >>> 7)
  smallSecond word := turnRightLong word 19 ^^^ turnRightLong word 61 ^^^ (word >>> 6)
  constants := ((primes.take 80).map fun prime => UInt64.ofNat (rootFraction 3 64 prime)).toArray

section Eight

variable {Word : Type} [Inhabited Word] [Add Word] [AndOp Word] [XorOp Word] [Complement Word]

/-- The words of a block, made longer by words that mix earlier ones. -/
def Mixing.spread (mixing : Mixing Word) (words : Array Word) : Array Word :=
  (List.range (mixing.rounds - 16)).foldl (fun words index =>
    let at_ (back : Nat) : Word := words.getD (16 + index - back) default
    words.push (mixing.smallSecond (at_ 2) + at_ 7 + mixing.smallFirst (at_ 15) + at_ 16)) words

/-- One step of a digest of eight words. -/
def Mixing.step (mixing : Mixing Word) (words : Array Word) (state : List Word) (index : Nat) :
    List Word :=
  match state with
  | [a, b, c, d, e, f, g, h] =>
    let chosen := (e &&& f) ^^^ (~~~e &&& g)
    let common := (a &&& b) ^^^ (a &&& c) ^^^ (b &&& c)
    let sum := h + mixing.largeSecond e + chosen + mixing.constants.getD index default +
      words.getD index default
    [sum + (mixing.largeFirst a + common), a, b, c, d + sum, e, f, g]
  | other => other

/-- Mix the words of a block into a state. -/
def Mixing.mix (mixing : Mixing Word) (state : List Word) (words : Array Word) : List Word :=
  let mixed := (List.range mixing.rounds).foldl (mixing.step (mixing.spread words)) state
  List.zipWith (· + ·) state mixed

end Eight

/-- The digest of eight words of 32 bits, from some first words. -/
def eightShort (start : List UInt32) (bytes : List UInt8) : List UInt8 :=
  let text := filled 64 8 false bytes
  let state := (rows 64 (text.length / 64) text).foldl (fun state block =>
    short.mix state ((rows 4 16 block).map fun word => UInt32.ofNat (numberOf word)).toArray) start
  state.flatMap fun word => bytesOf 4 word.toNat

/-- The digest of eight words of 64 bits, from some first words. -/
def eightLong (start : List UInt64) (bytes : List UInt8) : List UInt8 :=
  let text := filled 128 16 false bytes
  let state := (rows 128 (text.length / 128) text).foldl (fun state block =>
    long.mix state ((rows 8 16 block).map fun word => UInt64.ofNat (numberOf word)).toArray) start
  state.flatMap fun word => bytesOf 8 word.toNat

/-- The digest of 256 bits. -/
def bits256 (bytes : List UInt8) : List UInt8 :=
  eightShort ((primes.take 8).map fun prime => UInt32.ofNat (rootFraction 2 32 prime)) bytes

/-- The digest of 224 bits, which begins with the lower halves of longer words. -/
def bits224 (bytes : List UInt8) : List UInt8 :=
  (eightShort (((primes.drop 8).take 8).map fun prime =>
    UInt32.ofNat (rootFraction 2 64 prime)) bytes).take 28

/-- The digest of 512 bits. -/
def bits512 (bytes : List UInt8) : List UInt8 :=
  eightLong ((primes.take 8).map fun prime => UInt64.ofNat (rootFraction 2 64 prime)) bytes

/-- The digest of 384 bits. -/
def bits384 (bytes : List UInt8) : List UInt8 :=
  (eightLong (((primes.drop 8).take 8).map fun prime =>
    UInt64.ofNat (rootFraction 2 64 prime)) bytes).take 48

/-! ### Check sums -/

/-- A remainder moved on by one bit. -/
def remainderStep (remainder : UInt32) : UInt32 :=
  if remainder >>> 31 = 1 then (remainder <<< 1) ^^^ 0x04c11db7 else remainder <<< 1

/-- A remainder moved on by one byte. -/
def remainderByte (remainder : UInt32) (byte : UInt8) : UInt32 :=
  (List.range 8).foldl (fun remainder _ => remainderStep remainder)
    (remainder ^^^ (byte.toUInt32 <<< 24))

/-- The check sum of bytes, with the bytes of their number behind them. -/
def checkSum (bytes : List UInt8) : Nat :=
  let length := (List.range 8).map fun index => bytes.length / Nat.pow 256 index
  let lengthBytes := (length.takeWhile (0 < ·)).map UInt8.ofNat
  (~~~((bytes ++ lengthBytes).foldl remainderByte 0)).toNat

/-- The sum of bytes that is turned to the right before each of them. -/
def turningSum (bytes : List UInt8) : Nat :=
  bytes.foldl (fun sum byte => ((sum / 2) + (sum % 2) * 32768 + byte.toNat) % 65536) 0

end CodeNavigator.Text.Digest
