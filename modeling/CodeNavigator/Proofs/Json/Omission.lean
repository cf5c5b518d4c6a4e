/-
This file says when a member may be left out of an object. A record that assumes something for a
field that is missing makes the same of an object whether what is assumed is written or not, and
wherever it is written: the step of the member changes one place of the draft, no other step looks
at that place, and in the end the place counts for as much empty as with the assumed value.
-/

import CodeNavigator.Proofs.Json.Decoding

namespace CodeNavigator.Json.Form

variable {Result Draft Place : Type} {levels : Nat} {put : Option Place → Draft → Draft}

/-! ### Steps that leave a place alone -/

/-- A step neither looks at what a draft keeps in one place nor changes it. -/
def Leaves (put : Option Place → Draft → Draft) (step : Step Draft) : Prop :=
  ∀ kept draft, step (put kept draft) = (step draft).map (put kept)

/-- A member that fills a field leaves all other places alone. -/
theorem leaves_field {field : Field Draft} {step : Step Draft}
    (blind : ∀ kept draft, field.isFilled (put kept draft) = field.isFilled draft)
    (leaves : Leaves put step) :
    Leaves put fun draft =>
      if field.isFilled draft then .error .unexpectedForm else step draft := by
  intro kept draft
  dsimp only
  rw [blind, leaves]
  split <;> rfl

theorem leaves_map {set : Draft → Result → Draft} (result : Except Cause Result)
    (apart : ∀ kept draft value, set (put kept draft) value = put kept (set draft value)) :
    Leaves put fun draft => result.map (set draft) := by
  intro kept draft
  cases result with
  | error => rfl
  | ok value => exact congrArg Except.ok (apart kept draft value)

/-! ### Steps left out -/

theorem take_put {steps : List (Step Draft)} (leaves : ∀ step ∈ steps, Leaves put step)
    (kept : Option Place) (draft : Draft) :
    take steps (put kept draft) = (take steps draft).map (put kept) := by
  induction steps generalizing draft with
  | nil => rfl
  | cons step steps inductionHypothesis =>
    have later := inductionHypothesis fun other member =>
      leaves other (List.mem_cons_of_mem _ member)
    rw [take_cons, take_cons, leaves step List.mem_cons_self]
    cases step draft with
    | error => rfl
    | ok next => exact later next

/-- A step that fills a place with its usual value can be left out, if the place is left alone by
all other steps and the usual value is what is assumed where there is none. -/
theorem take_insert {before after : List (Step Draft)}
    (leaves : ∀ step ∈ before ++ after, Leaves put step) {step : Step Draft} {usual : Place}
    (fills : ∀ draft, step (put none draft) = .ok (put (some usual) draft))
    {finish : Draft → Option Result}
    (assumed : ∀ draft, finish (put (some usual) draft) = finish (put none draft))
    (draft : Draft) :
    ((take (before ++ step :: after) (put none draft)).bind fun draft => wanted (finish draft)) =
      (take (before ++ after) (put none draft)).bind fun draft => wanted (finish draft) := by
  have first := take_put fun step member => leaves step (List.mem_append_left _ member)
  have last := take_put fun step member => leaves step (List.mem_append_right _ member)
  rw [take_append, take_append, first]
  cases take before draft with
  | error => rfl
  | ok middle =>
    show (take (step :: after) (put none middle)).bind _ = (take after (put none middle)).bind _
    rw [take_cons, fills]
    show (take after (put (some usual) middle)).bind _ = _
    rw [last, last]
    cases take after middle with
    | error => rfl
    | ok whole => exact congrArg wanted (assumed whole)

/-! ### Members left out -/

/-- Where each member takes a step of some kind, all members together take steps of that kind. -/
theorem exists_steps {fields : List (Field Draft)} {members : List (String × Value)}
    {kind : Step Draft → Prop}
    (each : ∀ member ∈ members, ∃ step, Takes fields levels member step ∧ kind step) :
    ∃ steps, List.Forall₂ (Takes fields levels) members steps ∧ ∀ step ∈ steps, kind step := by
  induction members with
  | nil => exact ⟨[], List.Forall₂.nil, nofun⟩
  | cons member members inductionHypothesis =>
    obtain ⟨step, takes, good⟩ := each member List.mem_cons_self
    obtain ⟨steps, parts, all⟩ := inductionHypothesis fun other inside =>
      each other (List.mem_cons_of_mem _ inside)
    exact ⟨step :: steps, List.Forall₂.cons takes parts, List.forall_mem_cons.mpr ⟨good, all⟩⟩

/-- It makes no difference to a record whether a member that fills a place with its usual value
stands somewhere among the others or is left out. -/
theorem exists_makes_record_without {fields : List (Field Draft)}
    {before after : List (String × Value)}
    (each : ∀ member ∈ before ++ after, ∃ step, Takes fields levels member step ∧ Leaves put step)
    {member : String × Value} {step : Step Draft} (takes : Takes fields levels member step)
    {usual : Place} (fills : ∀ draft, step (put none draft) = .ok (put (some usual) draft))
    {finish : Draft → Option Result}
    (assumed : ∀ draft, finish (put (some usual) draft) = finish (put none draft))
    (draft : Draft) :
    ∃ result,
      (Form.record fields (put none draft) finish).Makes (levels + 1)
        (.object (before ++ member :: after)) result ∧
      (Form.record fields (put none draft) finish).Makes (levels + 1)
        (.object (before ++ after)) result := by
  obtain ⟨first, firstParts, firstLeaves⟩ := exists_steps fun member inside =>
    each member (List.mem_append_left _ inside)
  obtain ⟨last, lastParts, lastLeaves⟩ := exists_steps fun member inside =>
    each member (List.mem_append_right _ inside)
  have leaves : ∀ step ∈ first ++ last, Leaves put step :=
    List.forall_mem_append.mpr ⟨firstLeaves, lastLeaves⟩
  refine ⟨_, makes_record (List.rel_append firstParts (List.Forall₂.cons takes lastParts)) _ _, ?_⟩
  rw [take_insert leaves fills assumed]
  exact makes_record (List.rel_append firstParts lastParts) _ _

/-- In a list the last field may be left out just as well. -/
theorem exists_makes_list_without {fields : List (Field Draft)} {items : List Value}
    {steps : List (Step Draft)} {field : Field Draft}
    (parts : InOrder levels fields items steps [field]) (leaves : ∀ step ∈ steps, Leaves put step)
    (missing : field.mayBeMissing = true) {value : Value} {step : Step Draft}
    (takes : field.Takes levels value step) {usual : Place}
    (fills : ∀ draft, step (put none draft) = .ok (put (some usual) draft))
    {finish : Draft → Option Result}
    (assumed : ∀ draft, finish (put (some usual) draft) = finish (put none draft))
    (draft : Draft) :
    ∃ result,
      (Form.record fields (put none draft) finish).Makes (levels + 1) (.list (items ++ [value]))
        result ∧
      (Form.record fields (put none draft) finish).Makes (levels + 1) (.list items) result := by
  have whole := makes_record_list (parts.append takes) (put none draft) finish
  have short := makes_record_list parts (put none draft) finish
  have same := take_insert (by rwa [List.append_nil]) fills assumed draft
  rw [bind_closed List.all_nil] at whole
  rw [bind_closed (by simp [missing])] at short
  rw [List.append_nil] at same
  exact ⟨_, whole, same ▸ short⟩

end CodeNavigator.Json.Form
