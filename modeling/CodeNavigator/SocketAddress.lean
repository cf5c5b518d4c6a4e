/-
This file reads addresses that a server can listen on. An address is a host and a port. A host is
either four numbers with dots between them, without superfluous zeros, or eight groups of
hexadecimal digits in brackets, in which one run of zero groups may be left out and the last two
groups may be written as four numbers.
-/

import CodeNavigator.Text.Decimal
import CodeNavigator.Text.Split

namespace CodeNavigator

inductive Host
  | numbers (numbers : List Nat)
  | groups (groups : List Nat)
deriving DecidableEq

structure SocketAddress where
  host : Host
  port : Nat
deriving DecidableEq

namespace SocketAddress

/-! ### Numbers with dots -/

/-- One of the four numbers. -/
def readNumber (text : List Char) : Option Nat :=
  if text.length > 1 && text.head? = some '0' then none
  else (Text.readDigits text).filter (· < 256)

/-- Four numbers with dots between them. -/
def readNumbers (text : List Char) : Option (List Nat) :=
  let parts := Text.split '.' text
  if parts.length = 4 then parts.mapM readNumber else none

/-! ### Groups with colons -/

/-- The value of a hexadecimal digit. -/
def hexDigit? (digit : Char) : Option Nat :=
  if digit.isDigit then some (digit.toNat - '0'.toNat)
  else if 'a' ≤ digit && digit ≤ 'f' then some (digit.toNat - 'a'.toNat + 10)
  else if 'A' ≤ digit && digit ≤ 'F' then some (digit.toNat - 'A'.toNat + 10)
  else none

/-- One group: up to four hexadecimal digits. -/
def readGroup (text : List Char) : Option Nat :=
  if text.isEmpty || text.length > 4 then none
  else (text.mapM hexDigit?).map fun digits =>
    digits.foldl (fun value digit => value * 16 + digit) 0

/-- The groups between colons. The last part may be written as four numbers, which make two
groups. -/
def readParts : List (List Char) → Option (List Nat)
  | [] => some []
  | [last] =>
    match readNumbers last with
    | some [first, second, third, fourth] => some [first * 256 + second, third * 256 + fourth]
    | _ => (readGroup last).map fun group => [group]
  | part :: rest => do
    let group ← readGroup part
    let others ← readParts rest
    some (group :: others)

/-- The groups of a text without a gap. An empty text has none. -/
def readRun (text : List Char) : Option (List Nat) :=
  if text.isEmpty then some [] else readParts (Text.split ':' text)

/-- What stands before and after the first two colons next to each other. -/
def cutGap : List Char → Option (List Char × List Char)
  | ':' :: ':' :: rest => some ([], rest)
  | character :: rest => (cutGap rest).map fun (before, after) => (character :: before, after)
  | [] => none

/-- Eight groups, written out or with a gap. Four numbers are never written before the gap. -/
def readGroups (text : List Char) : Option (List Nat) :=
  match cutGap text with
  | none => (readRun text).filter fun groups => groups.length = 8
  | some (before, after) => do
    if before.contains '.' then none
    let first ← readRun before
    let last ← readRun after
    if first.length + last.length < 8 then
      some (first ++ List.replicate (8 - first.length - last.length) 0 ++ last)
    else none

/-! ### Addresses -/

/-- The port behind a colon. -/
def readPort (text : List Char) : Option Nat :=
  match text with
  | ':' :: digits => (Text.readDigits digits).filter (· < 65536)
  | _ => none

/-- The host between brackets. A number behind a percent sign may name a scope. -/
def readBracketed (text : List Char) : Option (List Nat) :=
  if text.contains '%' then do
    let (groups, scope) := Text.cutFirst '%' text
    let number ← Text.readDigits scope
    if number < Nat.pow 2 32 then readGroups groups else none
  else readGroups text

/-- Read an address. -/
def read (text : String) : Option SocketAddress :=
  match text.toList with
  | '[' :: rest => do
    if !rest.contains ']' then none
    let groups ← readBracketed (rest.takeWhile (· ≠ ']'))
    let port ← readPort ((rest.dropWhile (· ≠ ']')).drop 1)
    some ⟨.groups groups, port⟩
  | all => do
    let numbers ← readNumbers (all.takeWhile (· ≠ ':'))
    let port ← readPort (all.dropWhile (· ≠ ':'))
    some ⟨.numbers numbers, port⟩

/-- Whether an address belongs to the machine itself on every machine. -/
def isLocal (address : SocketAddress) : Bool :=
  match address.host with
  | .numbers numbers => numbers.head? = some 127 || numbers = [0, 0, 0, 0]
  | .groups groups => groups = [0, 0, 0, 0, 0, 0, 0, 0] || groups = [0, 0, 0, 0, 0, 0, 0, 1]

/-- Whether a port is kept for the system. -/
def isReserved (address : SocketAddress) : Bool :=
  0 < address.port && address.port < 1024

end SocketAddress

end CodeNavigator
