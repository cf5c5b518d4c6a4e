/-
This file says where texts are cut. A text that is cut at every separator falls into parts that do
not hold it, and parts that do not hold it are found again when they were joined.

A text is cut at its last delimiter so that nothing is left out, and at the last place where the
delimiter stands: no occurrence of the delimiter begins later. So a text whose end holds no character
of the delimiter is always cut right before that end.
-/

import CodeNavigator.Text.Split
import Mathlib.Data.List.Basic

namespace CodeNavigator.Text

/-! ### Cutting at every separator -/

section Split

variable {Item : Type} [DecidableEq Item] {separator : Item}

theorem split_cons {item : Item} {text first : List Item} {others : List (List Item)}
    (parts : split separator text = first :: others) :
    split separator (item :: text) =
      if item = separator then [] :: first :: others else (item :: first) :: others := by
  rw [split, parts]

/-- A text is cut at a separator wherever it stands. -/
theorem split_append_cons (front text : List Item) :
    split separator (front ++ separator :: text) =
      split separator front ++ split separator text := by
  induction front with
  | nil =>
    obtain ⟨first, others, parts⟩ := List.exists_cons_of_ne_nil (split_ne_nil separator text)
    rw [List.nil_append, split_cons parts, if_pos rfl, parts]
    rfl
  | cons item front inductionHypothesis =>
    obtain ⟨first, others, parts⟩ := List.exists_cons_of_ne_nil (split_ne_nil separator front)
    have whole : split separator (front ++ separator :: text) =
        first :: (others ++ split separator text) := by
      rw [inductionHypothesis, parts, List.cons_append]
    rw [List.cons_append, split_cons whole, split_cons parts]
    split <;> rfl

/-- A text without the separator is its only part. -/
theorem split_of_not_mem {text : List Item} (whole : separator ∉ text) :
    split separator text = [text] := by
  induction text with
  | nil => rfl
  | cons item rest inductionHypothesis =>
    rw [List.mem_cons, not_or] at whole
    rw [split_cons (inductionHypothesis whole.2), if_neg (Ne.symm whole.1)]

/-- The parts of a text do not hold the separator. -/
theorem not_mem_of_mem_split {text part : List Item} (member : part ∈ split separator text) :
    separator ∉ part := by
  induction text generalizing part with
  | nil =>
    rw [split, List.mem_singleton] at member
    rw [member]
    exact List.not_mem_nil
  | cons item rest inductionHypothesis =>
    obtain ⟨first, others, parts⟩ := List.exists_cons_of_ne_nil (split_ne_nil separator rest)
    rw [parts] at inductionHypothesis
    rw [split_cons parts] at member
    split at member
    · rcases List.mem_cons.mp member with rfl | member
      · exact List.not_mem_nil
      · exact inductionHypothesis member
    · next other =>
      rcases List.mem_cons.mp member with rfl | member
      · rw [List.mem_cons, not_or]
        exact ⟨Ne.symm other, inductionHypothesis List.mem_cons_self⟩
      · exact inductionHypothesis (List.mem_cons_of_mem _ member)

/-- Parts that are joined are found again, if they do not hold the separator themselves. -/
theorem split_join {parts : List (List Item)} (nonempty : parts ≠ [])
    (whole : ∀ part ∈ parts, separator ∉ part) : split separator (join separator parts) = parts := by
  induction parts with
  | nil => exact absurd rfl nonempty
  | cons first others inductionHypothesis =>
    cases others with
    | nil => exact split_of_not_mem (whole first List.mem_cons_self)
    | cons second others =>
      have later := inductionHypothesis (List.cons_ne_nil _ _) fun part member =>
        whole part (List.mem_cons_of_mem _ member)
      rw [join, split_append_cons, split_of_not_mem (whole first List.mem_cons_self), later]
      rfl

/-- Parts that a separator ends each are found again, and nothing is left behind the last one. -/
theorem split_flatMap_concat {parts : List (List Item)} (whole : ∀ part ∈ parts, separator ∉ part) :
    split separator (parts.flatMap fun part => part ++ [separator]) = parts ++ [[]] := by
  induction parts with
  | nil => rfl
  | cons first others inductionHypothesis =>
    have later := inductionHypothesis fun part member => whole part (List.mem_cons_of_mem _ member)
    rw [List.flatMap_cons, List.append_assoc, List.singleton_append, split_append_cons, later,
      split_of_not_mem (whole first List.mem_cons_self)]
    rfl

end Split

/-! ### Cutting where a property ends -/

/-- What has a property is cut off up to the first item without it. -/
theorem takeWhile_append_of_stops {Item : Type} {holds : Item → Bool} {front rest : List Item}
    (all : ∀ item ∈ front, holds item = true) (stops : ∀ item ∈ rest.head?, holds item = false) :
    (front ++ rest).takeWhile holds = front ∧ (front ++ rest).dropWhile holds = rest := by
  have apart : rest.takeWhile holds = [] ∧ rest.dropWhile holds = rest := by
    cases rest with
    | nil => exact ⟨rfl, rfl⟩
    | cons item others => simp [stops item rfl]
  rw [List.takeWhile_append_of_pos all, List.dropWhile_append_of_pos all, apart.1, apart.2,
    List.append_nil]
  exact ⟨rfl, rfl⟩

/-! ### Cutting at the last delimiter -/

variable {delimiter text before after : List Char}

/-- A delimiter stands somewhere in a text. -/
def Occurs (delimiter text : List Char) : Prop :=
  ∃ before after, text = before ++ delimiter ++ after

theorem cutLast_cons_of_none {character : Char} (none : cutLast delimiter text = none) :
    cutLast delimiter (character :: text) = some (before, after) ↔
      before = [] ∧ character :: text = delimiter ++ after := by
  rw [cutLast, none]
  simp only [Option.map_eq_some_iff, List.isPrefixOf?_eq_some_iff_append_eq, Prod.mk.injEq]
  constructor
  · rintro ⟨_, whole, rfl, rfl⟩
    exact ⟨rfl, whole.symm⟩
  · rintro ⟨rfl, whole⟩
    exact ⟨after, whole.symm, rfl, rfl⟩

/-- A text that is not cut does not hold the delimiter. -/
theorem not_occurs_of_cutLast (uncut : cutLast delimiter text = none) :
    ¬ Occurs delimiter text := by
  induction text with
  | nil =>
    rintro ⟨before, after, whole⟩
    have empty : delimiter = [] := by
      rw [List.append_assoc, List.nil_eq_append_iff, List.append_eq_nil_iff] at whole
      exact whole.2.1
    simp [cutLast, empty] at uncut
  | cons character rest inductionHypothesis =>
    have later : cutLast delimiter rest = none := by
      cases found : cutLast delimiter rest with
      | some cut => simp [cutLast, found] at uncut
      | none => rfl
    rintro ⟨before, after, whole⟩
    cases before with
    | nil =>
      have cut := (cutLast_cons_of_none later).mpr ⟨rfl, whole⟩
      rw [uncut] at cut
      cases cut
    | cons first middle =>
      exact inductionHypothesis later ⟨middle, after, (List.cons.inj whole).2⟩

/-- Nothing is lost at the cut, and the delimiter does not stand again after its place. -/
theorem cutLast_eq_some_iff (visible : delimiter ≠ []) :
    cutLast delimiter text = some (before, after) ↔
      text = before ++ delimiter ++ after ∧ ¬ Occurs delimiter (delimiter ++ after).tail := by
  induction text generalizing before after with
  | nil => simp [cutLast, visible]
  | cons character rest inductionHypothesis =>
    cases later : cutLast delimiter rest with
    | some found =>
      obtain ⟨front, back⟩ := found
      obtain ⟨whole, last⟩ := inductionHypothesis.mp later
      simp only [cutLast, later, Option.some.injEq, Prod.mk.injEq]
      constructor
      · rintro ⟨rfl, rfl⟩
        exact ⟨congrArg _ whole, last⟩
      · rintro ⟨split, isLast⟩
        cases before with
        | nil =>
          -- The delimiter also stands in the rest, so this is not its last place.
          rw [List.nil_append] at split
          rw [← split] at isLast
          exact absurd ⟨front, back, whole⟩ isLast
        | cons first middle =>
          obtain ⟨rfl, tails⟩ := List.cons.inj split
          have same := later.symm.trans (inductionHypothesis.mpr ⟨tails, isLast⟩)
          simp only [Option.some.injEq, Prod.mk.injEq] at same
          exact ⟨congrArg _ same.1, same.2⟩
    | none =>
      rw [cutLast_cons_of_none later]
      have missing := not_occurs_of_cutLast later
      constructor
      · rintro ⟨rfl, whole⟩
        rw [← whole]
        exact ⟨whole, missing⟩
      · rintro ⟨split, isLast⟩
        cases before with
        | nil => exact ⟨rfl, split⟩
        | cons first middle =>
          exact absurd ⟨middle, after, (List.cons.inj split).2⟩ missing

/-- A delimiter none of whose characters stand in the end of a text is last right before it. -/
theorem cutLast_append (visible : delimiter ≠ [])
    (apart : ∀ character ∈ delimiter, character ∉ after) :
    cutLast delimiter (before ++ delimiter ++ after) = some (before, after) := by
  refine (cutLast_eq_some_iff visible).mpr ⟨rfl, ?_⟩
  rintro ⟨front, back, split⟩
  obtain ⟨first, middle, rfl⟩ := List.exists_cons_of_ne_nil visible
  -- Another occurrence begins later, so it ends among the last characters of the text.
  have split : middle ++ after = front ++ (first :: middle) ++ back := split
  rcases List.append_eq_append_iff.mp split with ⟨rest, inner, outer⟩ | ⟨rest, inner, _⟩
  · have nonempty : rest ≠ [] := by
      rintro rfl
      have lengths := congrArg List.length inner
      simp only [List.length_append, List.length_cons, List.length_nil] at lengths
      omega
    have shared := congrArg List.getLast? inner
    rw [List.getLast?_append_of_ne_nil _ visible, List.getLast?_append_of_ne_nil _ nonempty,
      List.getLast?_eq_some_getLast visible] at shared
    refine apart _ (List.getLast_mem visible) ?_
    rw [outer]
    exact List.mem_append_left _ (List.mem_of_getLast? shared.symm)
  · have lengths := congrArg List.length inner
    simp only [List.length_append, List.length_cons] at lengths
    omega

/-- The delimiter does not stand in what follows its last place. -/
theorem not_occurs_after (last : ¬ Occurs delimiter (delimiter ++ after).tail)
    (visible : delimiter ≠ []) : ¬ Occurs delimiter after := by
  rintro ⟨front, back, rfl⟩
  obtain ⟨first, rest, rfl⟩ := List.exists_cons_of_ne_nil visible
  exact last ⟨rest ++ front, back, by simp⟩

end CodeNavigator.Text
