/-
This file follows a location on its way from the oracle to the reader. The oracle shows the location
as a text, puts the text into a description and writes the description as JSON. From that output the
same location is found again, and it is shown as the same text. Nothing depends on what the path
holds: the line and the column are cut off from the right, so the path may hold colons and look like
a position itself, and the JSON escapes give back every character.

In the other direction a location may be written with leading zeros. It is then shown without them,
and what is shown stands for the same location.
-/

import CodeNavigator.Definition.Answer
import CodeNavigator.Proofs.Definition.Classification
import CodeNavigator.Proofs.Definition.Position
import CodeNavigator.Proofs.Json.RoundTrip

namespace CodeNavigator

namespace SourceLocation

/-- What is shown of a location has the form of a position, without leading zeros. -/
theorem isForm_render {location : SourceLocation} (path : location.path.text ≠ "")
    (line : 0 < location.line.toNat) (column : 0 < location.column.toNat) :
    IsForm location.render ":" location (Nat.toDigits 10 location.line.toNat)
      (Nat.toDigits 10 location.column.toNat) := by
  refine ⟨?_, path, writes_toDigits line, writes_toDigits column⟩
  simp only [render, String.toList_append, Nat.toString_eq_repr, Nat.toList_repr]

/-- A location is read back from what is shown of it. -/
theorem read_render {location : SourceLocation} (path : location.path.text ≠ "")
    (line : 0 < location.line.toNat) (column : 0 < location.column.toNat) :
    read location.render ":" = .ok location :=
  read_of_form (by decide) (by simp) (isForm_render path line column)

end SourceLocation

namespace Finding

/-- A document holds a position at the place that its description selects. -/
def Carries (document : Json.Value) (position : String) : Prop :=
  ∃ members description holder key inner, document = .object members ∧
    HasObject members "describe" description ∧ Selects description holder key ∧
    HasObject description holder inner ∧ HasText inner key position

/-- Output leads to a place if it is a document that carries a position of that place. -/
theorem locates_iff_carries {output : String} {place : SourceLocation} :
    Locates output place ↔ ∃ document position, Json.parse output = .ok document ∧
      Carries document position ∧ SourceLocation.read position ":" = .ok place := by
  constructor
  · rintro ⟨inner, key, position,
      ⟨description, holder, ⟨members, decoded, described⟩, selects, has⟩, text, valid⟩
    exact ⟨.object members, position, decoded,
      ⟨members, description, holder, key, inner, rfl, described, selects, has, text⟩, valid⟩
  · rintro ⟨document, position, decoded,
      ⟨members, description, holder, key, inner, rfl, described, selects, has, text⟩, valid⟩
    exact ⟨inner, key, position, ⟨description, holder, ⟨members, decoded, described⟩, selects, has⟩,
      text, valid⟩

/-- A location survives the way through description, JSON, interpretation and answer.

A document that carries what is shown of a location leads to that location, however the document is
laid out as JSON, and the answer shows the same text. The path may be any text but the empty one,
and the line and the column any positive numbers of 32 bits.

Whenever output leads to a location, the answer shows the position that the output carries, without
the leading zeros of its line and column, and this text is a position of the same location. -/
theorem location_survives :
    (∀ (location : SourceLocation) (document : Json.Value) (layout : Nat → Json.Layout),
      location.path.text ≠ "" → 0 < location.line.toNat → 0 < location.column.toNat →
      document.IsReadable → document.nesting ≤ Json.nestingLimit →
      (∀ level, (layout level).Separates) → Carries document location.render →
      ofOutput (String.ofList (Json.valueText layout 0 document)) 0 = .ok (.location location) ∧
        (Answer.ofFinding (.location location)).render = location.render) ∧
    ∀ (output : String) (exitCode : Int32) (place : SourceLocation),
      ofOutput output exitCode = .ok (.location place) →
      ∃ document position line column, Json.parse output = .ok document ∧
        Carries document position ∧ SourceLocation.IsForm position ":" place line column ∧
        (Answer.ofFinding (.location place)).render =
          place.path.text ++ ":" ++ String.ofList (line.dropWhile (· = '0')) ++ ":" ++
            String.ofList (column.dropWhile (· = '0')) ∧
        SourceLocation.read (Answer.ofFinding (.location place)).render ":" = .ok place := by
  constructor
  · intro location document layout path line column readable fits separates carries
    have decoded := Json.parse_valueText separates readable fits
    have valid := SourceLocation.read_render path line column
    have locates := locates_iff_carries.mpr ⟨document, _, decoded, carries, valid⟩
    exact ⟨(if_pos rfl).trans (ofText_of_locates locates), rfl⟩
  · intro output exitCode place found
    have ended : exitCode = 0 := by
      by_contra failed
      rw [ofOutput, if_neg failed] at found
      cases found
    rw [ofOutput, if_pos ended] at found
    obtain ⟨document, position, decoded, carries, valid⟩ :=
      locates_iff_carries.mp (means_of_ofText found)
    obtain ⟨line, column, form⟩ := SourceLocation.exists_form_of_read (by decide) valid
    refine ⟨document, position, line, column, decoded, carries, form, ?_,
      SourceLocation.read_render form.path form.line.positive form.column.positive⟩
    rw [form.line.dropWhile_zero, form.column.dropWhile_zero]
    rfl

/-- The path holds a colon, a backslash, quotes, a newline and a control character, and looks like a
position itself. -/
theorem location_like_path_survives :
    let location : SourceLocation := ⟨⟨"C:\\src \"é\"\n\x07:3:1"⟩, 4294967295, 1⟩
    let document : Json.Value := .object [("describe", .object [
      ("desc", .string "reference to type T"), ("detail", .string "type"),
      ("type", .object [("namepos", .string location.render)])])]
    location.path.text ≠ "" ∧ 0 < location.line.toNat ∧ 0 < location.column.toNat ∧
    document.IsReadable ∧ document.nesting ≤ Json.nestingLimit ∧
    (∀ _ : Nat, Json.Layout.compact.Separates) ∧ Carries document location.render ∧
    ofOutput document.compact 0 = .ok (.location location) ∧
    (Answer.ofFinding (.location location)).render = location.render ∧
    SourceLocation.read (Answer.ofFinding (.location location)).render ":" = .ok location := by
  intro location document
  have path : location.path.text ≠ "" := by decide
  have readable : document.IsReadable := ⟨⟨trivial, trivial, ⟨trivial, trivial⟩, trivial⟩, trivial⟩
  have fits : document.nesting ≤ Json.nestingLimit := by decide
  have separates (_ : Nat) : Json.Layout.compact.Separates := Json.Layout.separates_compact
  have carries : Carries document location.render := by
    refine ⟨_, _, "type", "namepos", _, rfl, rfl, ?_, rfl, rfl⟩
    refine .type rfl (by decide) (by decide) rfl fun rest same => ?_
    have letters := congrArg String.toList same
    simp at letters
  obtain ⟨found, shown⟩ :=
    location_survives.1 location document _ path (by decide) (by decide) readable fits separates
      carries
  obtain ⟨_, _, _, _, _, _, _, _, again⟩ := location_survives.2 document.compact 0 location found
  exact ⟨path, by decide, by decide, readable, fits, separates, carries, found, shown, again⟩

end Finding

end CodeNavigator
