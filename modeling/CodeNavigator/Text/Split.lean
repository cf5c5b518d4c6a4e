/-
This file cuts texts at separators. `split` cuts at every occurrence of one character and never
loses a part, so joining the parts again gives the text back. `cutLast` cuts at the last occurrence
of a longer delimiter, which is how a text is taken apart from its right end.
-/

namespace CodeNavigator.Text

/-! ### Cutting at every separator -/

/-- The parts of a text between the occurrences of a separator, empty parts included. -/
def split {Item : Type} [DecidableEq Item] (separator : Item) : List Item → List (List Item)
  | [] => [[]]
  | item :: rest =>
    match split separator rest with
    | [] => [[item]]
    | first :: others =>
      if item = separator then [] :: first :: others else (item :: first) :: others

theorem split_ne_nil {Item : Type} [DecidableEq Item] (separator : Item) (text : List Item) :
    split separator text ≠ [] := by
  cases text with
  | nil => simp [split]
  | cons item rest =>
    unfold split
    split
    · simp
    · split <;> simp

/-- The parts with one separator between each two of them. -/
def join {Item : Type} (separator : Item) : List (List Item) → List Item
  | [] => []
  | [last] => last
  | first :: second :: others => first ++ separator :: join separator (second :: others)

theorem join_split {Item : Type} [DecidableEq Item] (separator : Item) (text : List Item) :
    join separator (split separator text) = text := by
  induction text with
  | nil => rfl
  | cons item rest inductionHypothesis =>
    unfold split
    split
    · next empty => exact absurd empty (split_ne_nil separator rest)
    · next first others parts =>
      rw [parts] at inductionHypothesis
      split
      · next same => rw [join, inductionHypothesis, same, List.nil_append]
      · cases others with
        | nil => rw [join] at inductionHypothesis ⊢; rw [inductionHypothesis]
        | cons second others =>
          rw [join] at inductionHypothesis ⊢
          rw [List.cons_append, inductionHypothesis]

/-! ### Cutting at the last delimiter -/

/-- What stands before and after the last occurrence of a delimiter. -/
def cutLast (delimiter : List Char) : List Char → Option (List Char × List Char)
  | [] => if delimiter.isEmpty then some ([], []) else none
  | character :: rest =>
    match cutLast delimiter rest with
    | some (before, after) => some (character :: before, after)
    | none => (delimiter.isPrefixOf? (character :: rest)).map fun after => ([], after)

/-! ### Cutting at the first separator -/

/-- What stands before and after the first occurrence of a separator. Without one, all stands
before it. -/
def cutFirst {Item : Type} [DecidableEq Item] (separator : Item) (text : List Item) :
    List Item × List Item :=
  (text.takeWhile (· ≠ separator), (text.dropWhile (· ≠ separator)).drop 1)

end CodeNavigator.Text
