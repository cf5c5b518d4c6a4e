/-
This file expands braces, which a shell with extras does before everything else. Alternatives between
braces give one word each, and so do the numbers or letters from one end of a range to the other.
Braces with neither stay as they are.
-/

import CodeNavigator.Shell.Arithmetic

namespace CodeNavigator.Shell

/-- A character that may be a brace, or a piece that has no brace of its own. -/
inductive Atom
  | character (character : Char)
  | piece (piece : Piece)

namespace Atom

/-- The atoms of a word. -/
def ofWord (word : Word) : List Atom :=
  word.flatMap fun
    | .text false text => text.map .character
    | other => [.piece other]

/-- The word that atoms make. -/
def toWord (atoms : List Atom) : Word :=
  (atoms.foldl (fun pieces atom =>
    match atom with
    | .character single => Word.addText false [single] pieces
    | .piece other => other :: pieces) []).reverse

/-- Whether an atom is some character. -/
def is (expected : Char) : Atom → Bool
  | .character single => single = expected
  | .piece _ => false

/-- What stands up to the closing brace, cut at the commas that no other braces hold, and what
follows. -/
def cutAlternatives : Nat → List Atom → List Atom → Option (List (List Atom) × List Atom)
  | _, _, [] => none
  | depth, current, atom :: rest =>
    if atom.is '\x7d' then
      match depth with
      | 0 => some ([current.reverse], rest)
      | depth + 1 => cutAlternatives depth (atom :: current) rest
    else if atom.is '\x7b' then cutAlternatives (depth + 1) (atom :: current) rest
    else if atom.is ',' && depth = 0 then
      (cutAlternatives 0 [] rest).map fun (others, after) => (current.reverse :: others, after)
    else cutAlternatives depth (atom :: current) rest

/-- The text of atoms that are all characters. -/
def plain? (atoms : List Atom) : Option ByteText :=
  atoms.mapM fun
    | .character single => some single
    | .piece _ => none

end Atom

/-! ### Ranges -/

/-- How many words a range gives at most. -/
def rangeLimit : Nat := 100000

/-- The numbers from one end to the other in steps of some size. -/
def rangeOf (first last : Int) (step : Nat) : List Int :=
  let distance := (last - first).natAbs
  let count := min (distance / (max step 1) + 1) rangeLimit
  (List.range count).map fun (index : Nat) =>
    let offset : Int := index * max step 1
    if first ≤ last then first + offset else first - offset

/-- A number with zeros up to a width. -/
def zeroFilled (width : Nat) (number : Int) : ByteText :=
  if number < 0 then '-' :: ByteText.padLeft '0' (width - 1) (ByteText.ofNat number.natAbs)
  else ByteText.padLeft '0' width (ByteText.ofNat number.natAbs)

/-- The whole number that a text writes. -/
def wholeNumber? (text : ByteText) : Option Int :=
  match text with
  | '-' :: digits => (Text.readDigits digits).map fun value => -(value : Int)
  | digits => (Text.readDigits digits).map fun value => (value : Int)

/-- Whether a number is written with more digits than it needs. -/
def isFilled (text : ByteText) : Bool :=
  match text with
  | '0' :: _ :: _ => true
  | '-' :: '0' :: _ => true
  | _ => false

/-- The parts of a text between pairs of points. -/
def cutAtPoints : ByteText → List ByteText
  | '.' :: '.' :: rest => [] :: cutAtPoints rest
  | character :: rest =>
    match cutAtPoints rest with
    | first :: others => (character :: first) :: others
    | [] => [[character]]
  | [] => [[]]

/-- The words of a range. -/
def rangeWords? (text : ByteText) : Option (List ByteText) := do
  let (first, last, step) ← match cutAtPoints text with
    | [first, last] => some (first, last, 1)
    | [first, last, step] => (wholeNumber? step).map fun step => (first, last, step.natAbs)
    | _ => none
  match wholeNumber? first, wholeNumber? last, first, last with
  | some low, some high, _, _ =>
    let width := if isFilled first || isFilled last then max first.length last.length else 0
    some ((rangeOf low high step).map (zeroFilled width))
  | none, none, [low], [high] =>
    if low.isAlpha && high.isAlpha then
      some ((rangeOf low.toNat high.toNat step).map fun code => [Char.ofNat code.toNat])
    else none
  | _, _, _, _ => none

/-! ### Words -/

/-- Expand the braces among some atoms. -/
def expandAtoms : Nat → List Atom → List (List Atom)
  | 0, atoms => [atoms]
  | _, [] => [[]]
  | limit + 1, atom :: rest =>
    let unchanged := (expandAtoms limit rest).map (atom :: ·)
    if atom.is '\x7b' then
      match Atom.cutAlternatives 0 [] rest with
      | none => unchanged
      | some ([single], after) =>
        match (Atom.plain? single).bind rangeWords? with
        | some words =>
          words.flatMap fun word =>
            (expandAtoms limit after).map fun others => word.map Atom.character ++ others
        | none => unchanged
      | some (alternatives, after) =>
        alternatives.flatMap fun alternative =>
          (expandAtoms limit alternative).flatMap fun first =>
            (expandAtoms limit after).map fun others => first ++ others
    else unchanged

/-- The words that a word with braces stands for. -/
def expandBraces (word : Word) : List Word :=
  let atoms := Atom.ofWord word
  if atoms.any (Atom.is '\x7b') then
    ((expandAtoms (atoms.length + 1) atoms).map Atom.toWord).filter fun word => !word.isEmpty
  else [word]

end CodeNavigator.Shell
