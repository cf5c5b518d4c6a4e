/-
This file says what a text that is no position is blamed on. The checks come in a fixed order:
whether the delimiter stands twice in the text, whether anything stands before the last two of its
places, whether the line is a number, and whether the column is one. A text is blamed on the first
check that it fails, so each blame tells that all checks before it went well.

A number can fail in three ways. Only the failure of a numeral that is too large has a reason behind
it; texts without digits and numerals of zeros have none.
-/

import CodeNavigator.Failure
import CodeNavigator.Proofs.Definition.Position
import Mathlib.Data.List.TakeWhile

namespace CodeNavigator

open Text (IsNumeral digitsValue Occurs)

/-! ### Numbers that fail -/

/-- How a segment fails to be a line or a column. -/
def Fails (segment : List Char) : CoordinateFault → Prop
  | .notDigits => ¬ IsNumeral segment
  | .zero => IsNumeral segment ∧ digitsValue segment = 0
  | .tooLarge => IsNumeral segment ∧ Nat.pow 2 32 - 1 < digitsValue segment

namespace SourceLocation

variable {text delimiter : String}

/-! ### Delimiters that stand twice -/

/-- A delimiter stands at two places of a text that do not overlap. The empty delimiter, which
stands everywhere, stands at two different places. -/
def HoldsTwice (delimiter text : List Char) : Prop :=
  ∃ front middle back, text = front ++ delimiter ++ middle ++ delimiter ++ back ∧
    delimiter ++ middle ≠ []

/-- What a text is blamed on: the first check that it fails. -/
def Blamed (text delimiter : String) : PositionFault → Prop
  | .tooFewSegments => ¬ HoldsTwice delimiter.toList text.toList
  | .emptyPath => ∃ line column, FallsInto delimiter.toList text.toList [] line column
  | .coordinate .line segment fault =>
    ∃ path line column, FallsInto delimiter.toList text.toList path line column ∧ path ≠ [] ∧
      segment = String.ofList line ∧ Fails line fault
  | .coordinate .column segment fault =>
    ∃ path line column value, FallsInto delimiter.toList text.toList path line column ∧ path ≠ [] ∧
      Writes line value ∧ segment = String.ofList column ∧ Fails column fault

/-- The segment that a text is blamed on fails as it is blamed for. -/
theorem Blamed.fails {which : Coordinate} {segment : String} {fault : CoordinateFault}
    (blamed : Blamed text delimiter (.coordinate which segment fault)) :
    Fails segment.toList fault := by
  cases which with
  | line =>
    obtain ⟨_, line, _, _, _, rfl, fails⟩ := blamed
    rwa [String.toList_ofList]
  | column =>
    obtain ⟨_, _, column, _, _, _, _, rfl, fails⟩ := blamed
    rwa [String.toList_ofList]

end SourceLocation

end CodeNavigator
