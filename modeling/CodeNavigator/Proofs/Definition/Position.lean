/-
This file says which texts are positions. A position is a path, a line and a column with a delimiter
between them. The line and the column are numerals whose values are positive and fit in 32 bits, so
they never hold a delimiter without digits, and a text has at most one such form. A delimiter with
digits may cut a numeral short, so there a text of the form may be read otherwise; but what is read
still has the form. The empty delimiter leaves nothing for the column.
-/

import CodeNavigator.Proofs.Text.Decimal
import CodeNavigator.Proofs.Text.Split
import CodeNavigator.SourceLocation

namespace CodeNavigator

open Text (IsNumeral digitsValue)

/-! ### Coordinates -/

/-- A numeral stands for a line or a column. Any number of zeros may lead it. -/
structure Writes (numeral : List Char) (value : UInt32) : Prop where
  digits : IsNumeral numeral
  weighs : digitsValue numeral = value.toNat
  positive : 0 < value.toNat

theorem readCoordinate_eq_ok_iff {segment : List Char} {value : UInt32} :
    readCoordinate segment = .ok value ↔ Writes segment value := by
  unfold readCoordinate
  constructor
  · intro read
    cases digits : Text.readDigits segment with
    | none =>
      rw [digits] at read
      cases read
    | some number =>
      obtain ⟨numeral, weighs⟩ := Text.readDigits_eq_some_iff.mp digits
      rw [digits] at read
      cases number with
      | zero => cases read
      | succ number =>
        simp only at read
        split at read
        · next fits =>
          cases read
          have same : (UInt32.ofNat (number + 1)).toNat = number + 1 :=
            UInt32.toNat_ofNat_of_lt' fits
          refine ⟨numeral, weighs.trans same.symm, ?_⟩
          rw [same]
          exact Nat.succ_pos number
        · cases read
  · intro writes
    obtain ⟨number, same⟩ :=
      Nat.exists_eq_add_one_of_ne_zero (Nat.pos_iff_ne_zero.mp writes.positive)
    have digits : Text.readDigits segment = some (number + 1) :=
      Text.readDigits_eq_some_iff.mpr ⟨writes.digits, writes.weighs.trans same⟩
    have fits : number + 1 < Nat.pow 2 32 := same ▸ value.toNat_lt
    have ofNumber : UInt32.ofNat (number + 1) = value := by rw [← same, UInt32.ofNat_toNat]
    rw [digits]
    simp only [if_pos fits, ofNumber]

theorem writes_toDigits {value : UInt32} (positive : 0 < value.toNat) :
    Writes (Nat.toDigits 10 value.toNat) value :=
  ⟨Text.isNumeral_toDigits _, Text.digitsValue_toDigits _, positive⟩

/-- Without its leading zeros a coordinate is as it is shown. -/
theorem Writes.dropWhile_zero {numeral : List Char} {value : UInt32}
    (writes : Writes numeral value) :
    numeral.dropWhile (· = '0') = Nat.toDigits 10 value.toNat := by
  rw [Text.dropWhile_zero_eq_toDigits writes.digits (writes.weighs ▸ writes.positive),
    writes.weighs]

/-! ### Positions -/

namespace SourceLocation

/-- The form of a position: a path, a line and a column with a delimiter between them. -/
structure IsForm (text delimiter : String) (location : SourceLocation) (line column : List Char) :
    Prop where
  text : text.toList =
    location.path.text.toList ++ delimiter.toList ++ line ++ delimiter.toList ++ column
  path : location.path.text ≠ ""
  line : Writes line location.line
  column : Writes column location.column

theorem positionSegments_of_ne_nil {text delimiter : List Char} (visible : delimiter ≠ []) :
    positionSegments text delimiter =
      (Text.cutLast delimiter text).bind fun (front, column) =>
        (Text.cutLast delimiter front).map fun (path, line) => (path, line, column) := by
  obtain ⟨first, rest, rfl⟩ := List.exists_cons_of_ne_nil visible
  rfl

/-- What stands before, between and after the last two delimiters of a text. They are looked for
from the right and do not overlap. An empty delimiter stands at every boundary, so its last two
places are the end of the text and the place before the last character. -/
inductive FallsInto (delimiter text path line column : List Char) : Prop
  | visible (visible : delimiter ≠ [])
      (whole : text = path ++ delimiter ++ line ++ delimiter ++ column)
      (lastLine : ¬ Text.Occurs delimiter (delimiter ++ line).tail)
      (lastColumn : ¬ Text.Occurs delimiter (delimiter ++ column).tail)
  | boundaries (last : Char) (empty : delimiter = []) (whole : text = path ++ [last])
      (line : line = [last]) (column : column = [])

theorem positionSegments_eq_some_iff {text delimiter path line column : List Char} :
    positionSegments text delimiter = some (path, line, column) ↔
      FallsInto delimiter text path line column := by
  by_cases visible : delimiter = []
  · subst visible
    cases reversed : text.reverse with
    | nil =>
      obtain rfl := List.reverse_eq_nil_iff.mp reversed
      refine ⟨nofun, fun falls => ?_⟩
      cases falls with
      | visible visible => exact absurd rfl visible
      | boundaries last _ whole => exact absurd whole.symm (by simp)
    | cons last before =>
      have whole : text = before.reverse ++ [last] := by
        rw [← List.reverse_cons, ← reversed, List.reverse_reverse]
      have segments : positionSegments text [] = some (before.reverse, [last], []) := by
        unfold positionSegments
        rw [reversed]
      rw [segments, Option.some.injEq, Prod.mk.injEq, Prod.mk.injEq]
      constructor
      · rintro ⟨rfl, rfl, rfl⟩
        exact .boundaries last rfl whole rfl rfl
      · rintro (⟨visible⟩ | ⟨other, _, again, rfl, rfl⟩)
        · exact absurd rfl visible
        · obtain ⟨same, ends⟩ := List.append_inj' (whole.symm.trans again) rfl
          exact ⟨same, ends, rfl⟩
  · rw [positionSegments_of_ne_nil visible, Option.bind_eq_some_iff]
    constructor
    · rintro ⟨⟨front, _⟩, cutColumn, segments⟩
      obtain ⟨⟨_, _⟩, cutLine, same⟩ := Option.map_eq_some_iff.mp segments
      cases same
      obtain ⟨whole, lastColumn⟩ := (Text.cutLast_eq_some_iff visible).mp cutColumn
      obtain ⟨rfl, lastLine⟩ := (Text.cutLast_eq_some_iff visible).mp cutLine
      exact .visible visible whole lastLine lastColumn
    · rintro (⟨_, whole, lastLine, lastColumn⟩ | ⟨_, empty, _⟩)
      · refine ⟨(path ++ delimiter ++ line, column),
          (Text.cutLast_eq_some_iff visible).mpr ⟨whole, lastColumn⟩, ?_⟩
        simp only [(Text.cutLast_eq_some_iff visible).mpr ⟨rfl, lastLine⟩, Option.map_some]
      · exact absurd empty visible

theorem read_eq_ok_iff_segments {text delimiter : String} {location : SourceLocation} :
    read text delimiter = .ok location ↔
      ∃ line column, positionSegments text.toList delimiter.toList =
          some (location.path.text.toList, line, column) ∧
        location.path.text ≠ "" ∧ Writes line location.line ∧ Writes column location.column := by
  unfold read
  constructor
  · intro accepted
    cases segments : positionSegments text.toList delimiter.toList with
    | none => simp [segments] at accepted
    | some found =>
      obtain ⟨path, line, column⟩ := found
      rw [segments] at accepted
      cases path with
      | nil => simp at accepted
      | cons first rest =>
        simp only at accepted
        cases readLine : readCoordinate line with
        | error fault => simp [readLine] at accepted
        | ok lineValue =>
          cases readColumn : readCoordinate column with
          | error fault => simp [readLine, readColumn] at accepted
          | ok columnValue =>
            simp only [readLine, readColumn, Except.ok.injEq] at accepted
            cases accepted
            refine ⟨line, column, ?_, ?_, readCoordinate_eq_ok_iff.mp readLine,
              readCoordinate_eq_ok_iff.mp readColumn⟩
            · simp
            · simp [← String.toList_inj]
  · rintro ⟨line, column, segments, path, writesLine, writesColumn⟩
    obtain ⟨first, rest, nonempty⟩ :=
      List.exists_cons_of_ne_nil (mt (fun empty => String.toList_inj.mp empty) path)
    rw [segments, nonempty]
    simp only [readCoordinate_eq_ok_iff.mpr writesLine, readCoordinate_eq_ok_iff.mpr writesColumn,
      ← nonempty, String.ofList_toList]

/-- A text that is read as a position has the form of one, and the delimiter stands in neither
number. -/
theorem exists_apart_form_of_read {text delimiter : String} {location : SourceLocation}
    (visible : delimiter ≠ "") (accepted : read text delimiter = .ok location) :
    ∃ line column, IsForm text delimiter location line column ∧
      ¬ Text.Occurs delimiter.toList line ∧ ¬ Text.Occurs delimiter.toList column := by
  have visible : delimiter.toList ≠ [] := mt (fun empty => String.toList_inj.mp empty) visible
  obtain ⟨line, column, segments, path, writesLine, writesColumn⟩ :=
    read_eq_ok_iff_segments.mp accepted
  rcases positionSegments_eq_some_iff.mp segments with ⟨_, whole, lastLine, lastColumn⟩ | ⟨_, empty⟩
  · exact ⟨line, column, ⟨whole, path, writesLine, writesColumn⟩,
      Text.not_occurs_after lastLine visible, Text.not_occurs_after lastColumn visible⟩
  · exact absurd empty visible

/-- A text that is read as a position has the form of one. -/
theorem exists_form_of_read {text delimiter : String} {location : SourceLocation}
    (visible : delimiter ≠ "") (accepted : read text delimiter = .ok location) :
    ∃ line column, IsForm text delimiter location line column := by
  obtain ⟨line, column, form, _⟩ := exists_apart_form_of_read visible accepted
  exact ⟨line, column, form⟩

/-- A text of the form falls into the parts of the form, as long as the delimiter has no digits. -/
theorem positionSegments_of_form {text delimiter : String} {location : SourceLocation}
    {line column : List Char} (visible : delimiter ≠ "")
    (plain : ∀ character ∈ delimiter.toList, character.isDigit = false)
    (form : IsForm text delimiter location line column) :
    positionSegments text.toList delimiter.toList =
      some (location.path.text.toList, line, column) := by
  have visible : delimiter.toList ≠ [] := mt (fun empty => String.toList_inj.mp empty) visible
  have apart {segment : List Char} {value : UInt32} (writes : Writes segment value)
      (character : Char) (member : character ∈ delimiter.toList) : character ∉ segment := by
    intro inside
    have digit := writes.digits.2 character inside
    rw [plain character member] at digit
    cases digit
  rw [positionSegments_of_ne_nil visible, form.text,
    Text.cutLast_append visible (apart form.column)]
  simp only [Option.bind_some, Text.cutLast_append visible (apart form.line), Option.map_some]

/-- A text of the form is read as the position, as long as the delimiter has no digits. -/
theorem read_of_form {text delimiter : String} {location : SourceLocation}
    {line column : List Char} (visible : delimiter ≠ "")
    (plain : ∀ character ∈ delimiter.toList, character.isDigit = false)
    (form : IsForm text delimiter location line column) : read text delimiter = .ok location :=
  read_eq_ok_iff_segments.mpr ⟨line, column, positionSegments_of_form visible plain form, form.path,
    form.line, form.column⟩

/-- A form determines its position and its numerals. -/
theorem IsForm.unique {text delimiter : String} {first second : SourceLocation}
    {line otherLine column otherColumn : List Char} (visible : delimiter ≠ "")
    (plain : ∀ character ∈ delimiter.toList, character.isDigit = false)
    (form : IsForm text delimiter first line column)
    (other : IsForm text delimiter second otherLine otherColumn) :
    first = second ∧ line = otherLine ∧ column = otherColumn := by
  have same := (read_of_form visible plain form).symm.trans (read_of_form visible plain other)
  have parts := (positionSegments_of_form visible plain form).symm.trans
    (positionSegments_of_form visible plain other)
  simp only [Option.some.injEq, Prod.mk.injEq] at parts
  exact ⟨Except.ok.inj same, parts.2⟩

/-- With the empty delimiter the column is empty, so nothing is read. -/
theorem exists_error_of_read_empty (text : String) : ∃ invalid, read text "" = .error invalid := by
  cases result : read text "" with
  | error invalid => exact ⟨invalid, rfl⟩
  | ok location =>
    obtain ⟨_, _, segments, _, _, writesColumn⟩ := read_eq_ok_iff_segments.mp result
    rcases positionSegments_eq_some_iff.mp segments with ⟨visible⟩ | ⟨_, _, _, _, rfl⟩
    · exact absurd rfl visible
    · exact absurd rfl writesColumn.digits.1

/-- The texts that are positions.

If the delimiter is visible and has no digits, a text is read as a position exactly if it has the
form of it: a path, which may hold the delimiter in any way, and two numerals, which may be led by
zeros, with the delimiter between them. Such a text has no second form.

If the delimiter may have digits, a text that is read still has the form of its position, and the
delimiter stands in neither numeral. With the empty delimiter nothing is read. -/
theorem read_eq_ok_iff_form :
    (∀ delimiter : String, delimiter ≠ "" →
      (∀ character ∈ delimiter.toList, character.isDigit = false) →
      ∀ text : String,
        (∀ location, read text delimiter = .ok location ↔
          ∃ line column, IsForm text delimiter location line column) ∧
        ∀ first second line otherLine column otherColumn,
          IsForm text delimiter first line column →
          IsForm text delimiter second otherLine otherColumn →
          first = second ∧ line = otherLine ∧ column = otherColumn) ∧
    (∀ delimiter text : String, delimiter ≠ "" → ∀ location, read text delimiter = .ok location →
      ∃ line column, IsForm text delimiter location line column ∧
        ¬ Text.Occurs delimiter.toList line ∧ ¬ Text.Occurs delimiter.toList column) ∧
    ∀ text : String, ∃ invalid, read text "" = .error invalid := by
  refine ⟨fun delimiter visible plain text => ⟨fun location => ⟨?_, ?_⟩, ?_⟩, ?_,
    exists_error_of_read_empty⟩
  · exact exists_form_of_read visible
  · rintro ⟨line, column, form⟩
    exact read_of_form visible plain form
  · intro first second line otherLine column otherColumn form other
    exact form.unique visible plain other
  · intro delimiter text visible location accepted
    exact exists_apart_form_of_read visible accepted

/-- The delimiter overlaps itself in the text, and zeros lead one of the numerals. A digit as the
delimiter cuts a numeral short. -/
theorem read_eq_ok_iff_form_of_overlapping :
    ("::" ≠ "" ∧ (∀ character ∈ "::".toList, character.isDigit = false) ∧
      IsForm "a::b:::12::007" "::" ⟨⟨"a::b:"⟩, 12, 7⟩ ['1', '2'] ['0', '0', '7'] ∧
      read "a::b:::12::007" "::" = .ok ⟨⟨"a::b:"⟩, 12, 7⟩ ∧
      ∀ location line column, IsForm "a::b:::12::007" "::" location line column →
        location = ⟨⟨"a::b:"⟩, 12, 7⟩ ∧ line = ['1', '2'] ∧ column = ['0', '0', '7']) ∧
    ("0" ≠ "" ∧ read "a020304" "0" = .ok ⟨⟨"a02"⟩, 3, 4⟩ ∧
      ∃ line column, IsForm "a020304" "0" ⟨⟨"a02"⟩, 3, 4⟩ line column ∧
        ¬ Text.Occurs "0".toList line ∧ ¬ Text.Occurs "0".toList column) ∧
    ∃ invalid, read "a:1:2" "" = .error invalid := by
  obtain ⟨grammar, apart, silent⟩ := read_eq_ok_iff_form
  have plain : ∀ character ∈ "::".toList, character.isDigit = false := by simp
  obtain ⟨reads, unique⟩ := grammar "::" (by decide) plain "a::b:::12::007"
  have form : IsForm "a::b:::12::007" "::" ⟨⟨"a::b:"⟩, 12, 7⟩ ['1', '2'] ['0', '0', '7'] :=
    ⟨rfl, by decide, ⟨⟨by decide, by simp⟩, rfl, by decide⟩, ⟨⟨by decide, by simp⟩, rfl, by decide⟩⟩
  have digits : read "a020304" "0" = .ok ⟨⟨"a02"⟩, 3, 4⟩ := rfl
  exact ⟨⟨by decide, plain, form, (reads _).mpr ⟨_, _, form⟩,
      fun location line column other => unique _ _ _ _ _ _ other form⟩,
    ⟨by decide, digits, apart "0" "a020304" (by decide) _ digits⟩, silent "a:1:2"⟩

end SourceLocation

end CodeNavigator
