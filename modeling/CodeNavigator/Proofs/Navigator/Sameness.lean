/-
This file proves that the navigator does not care how paths are spelled. Joins, parents and labels
are taken on the text of a path, while elements are compared by the components of their paths. So it
has to be shown that whatever is computed from the text comes out the same, up to spelling, when the
components are the same.

Sameness is then as good as equality. It sorts elements into classes, the first element of a list
that is the same as a given one stands for its class, and there are as many of these as a hash set
of the list has elements, whatever the hash is.
-/

import CodeNavigator.Proofs.Navigator.Ascent
import Mathlib.Data.List.Dedup

namespace CodeNavigator

/-! ### Paths that are the same -/

namespace Path

variable {left right leftStart rightStart : Path}

/-- Same paths have no parent together, or parents that are the same. -/
theorem Same.parent (same : left.Same right) : Option.Rel Same left.parent right.parent := by
  rcases left.parent_cases with ⟨none, top⟩ | ⟨above, last, parent, notRoot, shape⟩
  · rw [show left.components = right.components from same] at top
    rw [none, parent_eq_none_iff.mpr top]
    exact .none
  · obtain ⟨other, otherParent, components⟩ := exists_parent (same.symm.trans shape) notRoot
    rw [parent, otherParent]
    exact .some components.symm

theorem Same.same_iff (same : left.Same right) (starts : leftStart.Same rightStart) :
    left.Same leftStart ↔ right.Same rightStart :=
  ⟨fun atStart => same.symm.trans (atStart.trans starts),
    fun atStart => same.trans (atStart.trans starts.symm)⟩

theorem Same.startsWith_eq (same : left.Same right) (starts : leftStart.Same rightStart) :
    left.startsWith leftStart = right.startsWith rightStart := by
  rw [startsWith, startsWith, show left.components = right.components from same,
    show leftStart.components = rightStart.components from starts]

theorem Same.fileName_eq (same : left.Same right) : left.fileName = right.fileName := by
  rw [fileName, fileName, show left.components = right.components from same]

end Path

namespace Element

variable {left right : Element} {above : List Element}

/-! ### Elements that are the same -/

/-- What counts when elements are compared: the kind of an element, the name and the root of its
project, the name of a build target, and its path. -/
def sense (element : Element) :
    ElementKind × String × List Path.Component × Option String × Option (List Path.Component) :=
  (element.kind, element.owner.name, element.owner.root.components,
    match element with
    | .buildTarget _ name _ => some name
    | _ => none,
    element.path?.map Path.components)

theorem same_iff_sense : left.Same right ↔ left.sense = right.sense := by
  cases left with
  | resource owner path isDirectory =>
    cases right with
    | resource otherOwner otherPath otherIsDirectory =>
      cases isDirectory <;> cases otherIsDirectory <;>
        simp [Same, sense, kind, Element.owner, path?, Project.Same, Path.Same, and_assoc]
    | _ => cases isDirectory <;> simp [Same, sense, kind]
  | _ =>
    cases right with
    | resource otherOwner otherPath otherIsDirectory =>
      cases otherIsDirectory <;> simp [Same, sense, kind]
    | _ => simp [Same, sense, kind, Element.owner, path?, Project.Same, Path.Same, and_assoc]

theorem equivalence_same : Equivalence Same where
  refl := same_refl
  symm same := same_iff_sense.mpr (same_iff_sense.mp same).symm
  trans first second :=
    same_iff_sense.mpr ((same_iff_sense.mp first).trans (same_iff_sense.mp second))

theorem Same.kind_eq (same : left.Same right) : left.kind = right.kind :=
  congrArg Prod.fst (same_iff_sense.mp same)

/-- A resource is called by a name, and not by its whole path. -/
def EndsInName : Element → Prop
  | .resource _ path _ => ∃ front name, path.components = front ++ [.normal name]
  | _ => True

theorem Same.label_eq (same : left.Same right) (ends : left.EndsInName) :
    left.label = right.label := by
  cases left with
  | project owner =>
    cases right with
    | project => exact same.1
    | _ => cases same
  | buildTargets owner =>
    cases right with
    | buildTargets => rfl
    | _ => cases same
  | buildTarget owner name path =>
    cases right with
    | buildTarget => exact same.2.1
    | _ => cases same
  | resource owner path isDirectory =>
    cases right with
    | resource otherOwner otherPath _ =>
      obtain ⟨front, name, shape⟩ := ends
      have called : path.fileName = some name := by
        rw [Path.fileName, shape, List.getLast?_concat]
      rw [label, label, ← same.2.1.fileName_eq, called]
      rfl
    | _ => cases same

/-! ### The ways up -/

theorem Same.parent? (same : left.Same right) : Option.Rel Same left.parent? right.parent? := by
  cases left with
  | project owner =>
    cases right with
    | project => exact .none
    | _ => cases same
  | buildTargets owner =>
    cases right with
    | buildTargets => exact .some same
    | _ => cases same
  | buildTarget owner name path =>
    cases right with
    | buildTarget => exact .some same.1
    | _ => cases same
  | resource owner path isDirectory =>
    cases right with
    | resource otherOwner otherPath _ =>
      obtain ⟨owners, paths, _⟩ := same
      have above := paths.parent
      simp only [Element.parent?, paths.startsWith_eq owners.2, paths.same_iff owners.2]
      split
      · generalize path.parent = directory at above
        generalize otherPath.parent = otherDirectory at above
        cases above with
        | none => exact .none
        | @some directory otherDirectory directories =>
          simp only [Option.map_some, directories.same_iff owners.2]
          refine .some ?_
          split
          · exact owners
          · exact ⟨owners, directories, rfl⟩
      · exact .none
    | _ => cases same

theorem Same.ancestors (same : left.Same right) (limit : Nat) :
    List.Forall₂ Same (left.ancestors limit) (right.ancestors limit) := by
  induction limit generalizing left right with
  | zero => exact .nil
  | succ limit inductionHypothesis =>
    have next := same.parent?
    rw [Element.ancestors, Element.ancestors]
    generalize left.parent? = parent at next
    generalize right.parent? = otherParent at next
    cases next with
    | none => exact .nil
    | some parents => exact .cons parents (inductionHypothesis parents)

/-- The ways up from same elements pass same elements and end together. -/
theorem Ascends.exists_same (ascends : left.Ascends above) (same : left.Same right) :
    ∃ other, right.Ascends other ∧ List.Forall₂ Same above other := by
  induction ascends generalizing right with
  | nil ends =>
    have next := same.parent?
    rw [ends] at next
    cases ends : right.parent? with
    | none => exact ⟨[], .nil ends, .nil⟩
    | some => rw [ends] at next; cases next
  | cons next rest inductionHypothesis =>
    have parents := same.parent?
    rw [next] at parents
    cases otherNext : right.parent? with
    | none => rw [otherNext] at parents; cases parents
    | some =>
      rw [otherNext] at parents
      cases parents with
      | some parents =>
        obtain ⟨other, ascends, list⟩ := inductionHypothesis parents
        exact ⟨_, .cons otherNext ascends, .cons parents list⟩

/-! ### Classes -/

variable {elements : List Element} {element : Element}

theorem firstSame_lt_length (member : element ∈ elements) :
    firstSame elements element < elements.length :=
  List.findIdx_lt_length.mpr ⟨element, member, decide_eq_true element.same_refl⟩

/-- The first element that is the same. -/
theorem same_getElem_firstSame (within : firstSame elements element < elements.length) :
    elements[firstSame elements element].Same element :=
  of_decide_eq_true (List.findIdx_getElem (w := within))

theorem not_same_of_lt_firstSame {earlier : Nat} (before : earlier < firstSame elements element)
    (within : earlier < elements.length) : ¬ elements[earlier].Same element :=
  of_decide_eq_false (List.not_of_lt_findIdx before)

theorem firstSame_eq (same : left.Same right) (elements : List Element) :
    firstSame elements left = firstSame elements right := by
  unfold firstSame
  refine congrArg (List.findIdx · elements) (funext fun other => decide_eq_decide.mpr ?_)
  exact ⟨fun first => equivalence_same.trans first same,
    fun first => equivalence_same.trans first (equivalence_same.symm same)⟩

theorem firstSame_eq_iff (leftMember : left ∈ elements) (rightMember : right ∈ elements) :
    firstSame elements left = firstSame elements right ↔ left.Same right := by
  constructor
  · intro equal
    have first := same_getElem_firstSame (firstSame_lt_length leftMember)
    have second := same_getElem_firstSame (firstSame_lt_length rightMember)
    simp only [equal] at first
    exact equivalence_same.trans (equivalence_same.symm first) second
  · intro same
    exact firstSame_eq same elements

theorem firstSame_append (member : element ∈ elements) (more : List Element) :
    firstSame (elements ++ more) element = firstSame elements element := by
  rw [firstSame, List.findIdx_append]
  exact if_pos (firstSame_lt_length member)

/-- An element at the end is the first of its class if it is found nowhere else. -/
theorem firstSame_concat (elements : List Element) (last : Element) :
    firstSame (elements ++ [last]) last = firstSame elements last := by
  rw [firstSame, List.findIdx_append]
  split
  · rfl
  · next missing =>
    have alone : List.findIdx (fun other => decide (other.Same last)) [last] = 0 := by
      simp [List.findIdx_cons, last.same_refl]
    rw [alone, Nat.zero_add]
    exact Nat.le_antisymm (Nat.le_of_not_lt missing) List.findIdx_le_length

theorem mem_map_firstSame_iff (elements : List Element) (element : Element) :
    firstSame elements element ∈ elements.map (firstSame elements) ↔
      ∃ other ∈ elements, other.Same element := by
  rw [List.mem_map]
  constructor
  · rintro ⟨other, member, equal⟩
    have within := firstSame_lt_length member
    rw [equal] at within
    exact ⟨_, List.getElem_mem within, same_getElem_firstSame within⟩
  · rintro ⟨other, member, same⟩
    exact ⟨other, member, firstSame_eq same elements⟩

theorem length_eraseDups_concat (places : List Nat) (last : Nat) :
    (places ++ [last]).eraseDups.length =
      if last ∈ places then places.eraseDups.length else places.eraseDups.length + 1 := by
  rw [List.eraseDups_append, List.length_append]
  split
  · next known => simp [List.removeAll, known]
  · next new => simp [List.removeAll, List.eraseDups_cons, new]

/-- A further element makes one more class unless it is the same as an earlier one. -/
theorem countDistinct_concat (elements : List Element) (last : Element) :
    countDistinct (elements ++ [last]) =
      if ∃ other ∈ elements, other.Same last then countDistinct elements
      else countDistinct elements + 1 := by
  have firsts : (elements ++ [last]).map (firstSame (elements ++ [last])) =
      elements.map (firstSame elements) ++ [firstSame elements last] := by
    rw [List.map_append, List.map_singleton, firstSame_concat]
    refine congrArg (· ++ _) (List.map_congr_left fun element member => ?_)
    exact firstSame_append member [last]
  rw [countDistinct, firsts, length_eraseDups_concat, ← countDistinct]
  simp only [mem_map_firstSame_iff]

/-! ### Hash sets -/

/-- An element as a key: keys are equal when their elements are the same. -/
structure Key where
  element : Element

instance : BEq Key where
  beq left right := decide (left.element.Same right.element)

theorem Key.beq_iff_same {left right : Key} :
    (left == right) = true ↔ left.element.Same right.element :=
  decide_eq_true_iff

instance : EquivBEq Key where
  rfl := Key.beq_iff_same.mpr (equivalence_same.refl _)
  symm same := Key.beq_iff_same.mpr (equivalence_same.symm (Key.beq_iff_same.mp same))
  trans first second := Key.beq_iff_same.mpr
    (equivalence_same.trans (Key.beq_iff_same.mp first) (Key.beq_iff_same.mp second))

section HashSet

variable [Hashable Key]

/-- The hash set of the elements of a list. -/
def keySet (elements : List Element) : Std.HashSet Key :=
  elements.foldl (fun keys element => keys.insert ⟨element⟩) ∅

theorem keySet_concat (elements : List Element) (last : Element) :
    keySet (elements ++ [last]) = (keySet elements).insert ⟨last⟩ :=
  List.foldl_concat ..

theorem mem_keySet_iff [LawfulHashable Key] (elements : List Element) (element : Element) :
    ⟨element⟩ ∈ keySet elements ↔ ∃ other ∈ elements, other.Same element := by
  induction elements using List.reverseRecOn with
  | nil => simp [keySet]
  | append_singleton front last inductionHypothesis =>
    rw [keySet_concat, Std.HashSet.mem_insert, Key.beq_iff_same, inductionHypothesis]
    simp [or_and_right, exists_or, or_comm]

/-- A hash set of a list has one element for each class, whatever the hash is. -/
theorem size_keySet [LawfulHashable Key] (elements : List Element) :
    (keySet elements).size = countDistinct elements := by
  induction elements using List.reverseRecOn with
  | nil => rfl
  | append_singleton front last inductionHypothesis =>
    rw [keySet_concat, Std.HashSet.size_insert, countDistinct_concat, inductionHypothesis]
    simp only [mem_keySet_iff]

end HashSet

/-- Elements are hashed by their project and their kind. -/
instance : Hashable Key where
  hash key := mixHash (hash key.element.owner.name) (hash key.element.kind.name)

instance : LawfulHashable Key where
  hash_eq left right same := by
    have sense := same_iff_sense.mp (Key.beq_iff_same.mp same)
    have kinds : left.element.kind = right.element.kind := congrArg Prod.fst sense
    have owners : left.element.owner.name = right.element.owner.name :=
      congrArg (fun sense => sense.2.1) sense
    simp only [hash, kinds, owners]

end Element

/-- How paths are spelled makes no difference.

Elements that are the same up to the spelling of their paths are of one kind, have no parent
together or parents that are the same, and have ways up that pass same elements and end together.
They are called alike, unless they are resources that are called by their whole paths. Sameness is
an equivalence. In a list, the place of the first element that is the same stands for the class of an
element, and there are as many of these places as a hash set of the list has elements, whatever hash
gives same elements one code. -/
theorem structure_independent_of_spelling :
    (∀ left right : Element, left.Same right →
      left.kind = right.kind ∧
      Option.Rel Element.Same left.parent? right.parent? ∧
      (∀ above, left.Ascends above →
        ∃ other, right.Ascends other ∧ List.Forall₂ Element.Same above other) ∧
      (∀ limit, List.Forall₂ Element.Same (left.ancestors limit) (right.ancestors limit)) ∧
      (left.EndsInName → left.label = right.label)) ∧
    Equivalence Element.Same ∧
    ∀ elements : List Element,
      (∀ element ∈ elements, ∃ within : Element.firstSame elements element < elements.length,
        elements[Element.firstSame elements element].Same element ∧
        ∀ earlier, (before : earlier < Element.firstSame elements element) →
          ¬ elements[earlier].Same element) ∧
      (∀ left ∈ elements, ∀ right ∈ elements,
        Element.firstSame elements left = Element.firstSame elements right ↔ left.Same right) ∧
      ∀ [Hashable Element.Key] [LawfulHashable Element.Key],
        (Element.keySet elements).size = Element.countDistinct elements := by
  refine ⟨fun left right same => ?_, Element.equivalence_same, fun elements => ?_⟩
  · exact ⟨same.kind_eq, same.parent?, fun above ascends => ascends.exists_same same,
      same.ancestors, same.label_eq⟩
  · refine ⟨fun element member => ?_, fun left leftMember right rightMember => ?_, ?_⟩
    · have within := Element.firstSame_lt_length member
      exact ⟨within, Element.same_getElem_firstSame within,
        fun _ before => Element.not_same_of_lt_firstSame before _⟩
    · exact Element.firstSame_eq_iff leftMember rightMember
    · exact Element.size_keySet elements

/-- A file below a root that is written with a dot and below the same root written with two slashes,
and the project between them in a list. -/
theorem structure_independent_of_spelling_of_odd_root :
    let left : Element := .resource ⟨"hello", ⟨"/ws/."⟩⟩ ⟨"/ws/./cmd//main.go"⟩ false
    let right : Element := .resource ⟨"hello", ⟨"//ws"⟩⟩ ⟨"/ws/cmd/main.go/"⟩ false
    let elements : List Element := [left, .project ⟨"hello", ⟨"/ws"⟩⟩, right]
    left ≠ right ∧ left.Same right ∧ left.kind = right.kind ∧
    Option.Rel Element.Same left.parent? right.parent? ∧
    List.Forall₂ Element.Same (left.ancestors 64) (right.ancestors 64) ∧
    left.EndsInName ∧ left.label = right.label ∧
    Element.firstSame elements left = Element.firstSame elements right ∧
    (Element.keySet elements).size = 2 := by
  intro left right elements
  have same : left.Same right := by decide
  obtain ⟨kind, parents, _, ways, label⟩ := structure_independent_of_spelling.1 left right same
  obtain ⟨_, classes, size⟩ := structure_independent_of_spelling.2.2 elements
  have ends : left.EndsInName := ⟨[.root, .normal "ws", .normal "cmd"], "main.go", by decide⟩
  have first := (classes left (by decide) right (by decide)).mpr same
  have two : Element.countDistinct elements = 2 := by decide
  exact ⟨by decide, same, kind, parents, ways 64, ends, label ends, first, size.trans two⟩

end CodeNavigator
