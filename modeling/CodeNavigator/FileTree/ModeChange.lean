/-
This file reads changes of modes. A change is an octal number, or clauses that say for whom something
is added, taken away or set. Who is not named in a clause is everybody, as far as the mask of the
process allows.
-/

import CodeNavigator.FileTree.Basic
import CodeNavigator.Text.Bytes

namespace CodeNavigator.Mode

/-- The bits of everybody that a letter stands for among those for whom something is changed. -/
def whoBits : Char → Option Nat
  | 'u' => some 0o4700
  | 'g' => some 0o2070
  | 'o' => some 0o1007
  | 'a' => some 0o7777
  | _ => none

/-- The three bits that somebody has, given to everybody. -/
def spread (bits : Nat) : Nat :=
  bits * 0o111

/-- The bits that a letter stands for among the permissions. -/
def permissionBits (isDirectory : Bool) (old : Nat) : Char → Option Nat
  | 'r' => some 0o444
  | 'w' => some 0o222
  | 'x' => some 0o111
  | 'X' => some (if isDirectory || old &&& 0o111 ≠ 0 then 0o111 else 0)
  | 's' => some 0o6000
  | 't' => some 0o1000
  | 'u' => some (spread (old / 64 % 8))
  | 'g' => some (spread (old / 8 % 8))
  | 'o' => some (spread (old % 8))
  | _ => none

/-- All bits but some. -/
def without (bits removed : Nat) : Nat :=
  bits &&& (0o7777 ^^^ (removed &&& 0o7777))

/-- Apply the actions of one clause. -/
def applyActions (isDirectory : Bool) (who mask : Nat) : Nat → ByteText → Nat → Option Nat
  | 0, _, _ => none
  | limit + 1, text, old =>
    match text with
    | [] => some old
    | operator :: rest =>
      let letters := rest.takeWhile fun letter => !(['+', '-', '='].contains letter)
      let affected := if who = 0 then without 0o7777 mask else who
      match letters.mapM (permissionBits isDirectory old) with
      | none => none
      | some bits =>
        let value := (bits.foldl (· ||| ·) 0) &&& affected
        let after := rest.drop letters.length
        match operator with
        | '+' => applyActions isDirectory who mask limit after (old ||| value)
        | '-' => applyActions isDirectory who mask limit after (without old value)
        | '=' =>
          let kept := without old (if who = 0 then 0o777 else who &&& 0o777)
          applyActions isDirectory who mask limit after (kept ||| value)
        | _ => none

/-- Apply one clause. -/
def applyClause (isDirectory : Bool) (mask : Nat) (clause : ByteText) (old : Nat) : Option Nat :=
  let letters := clause.takeWhile fun letter => (whoBits letter).isSome
  let who := (letters.filterMap whoBits).foldl (· ||| ·) 0
  let actions := clause.drop letters.length
  if actions.isEmpty then none
  else applyActions isDirectory who mask (actions.length + 1) actions old

/-- The mode that a change makes of another one. -/
def change? (text : ByteText) (mask : Nat) (isDirectory : Bool) (old : Mode) : Option Mode :=
  let isOctal := !text.isEmpty && text.all fun digit => '0' ≤ digit && digit ≤ '7'
  if isOctal then
    let value := text.foldl (fun value digit => value * 8 + (digit.toNat - '0'.toNat)) 0
    if value ≤ 0o7777 then some ⟨value⟩ else none
  else
    (Text.split ',' text).foldlM (fun mode clause =>
      (applyClause isDirectory mask clause mode.bits).map Mode.mk) old

/-- The letters for the three bits of somebody. -/
def lettersOf (bits : Nat) : ByteText :=
  [('r', 4), ('w', 2), ('x', 1)].filterMap fun (letter, bit) =>
    if bits &&& bit ≠ 0 then some letter else none

/-- A number with four octal digits. -/
def octal (bits : Nat) : ByteText :=
  ByteText.padLeft '0' 4 (Nat.toDigits 8 bits)

end CodeNavigator.Mode
