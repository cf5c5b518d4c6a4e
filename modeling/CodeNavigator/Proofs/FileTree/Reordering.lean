/-
This file proves that nothing depends on the order in which directories enumerate their entries,
except for the order of what is read of one directory. Two trees are reorderings of each other when
one comes from the other by permuting the entries of directories, at any depth. At each place both
then look the same from outside: a directory of one mode with the same names, or one and the same
thing. A walk sees no more than that.
-/

import CodeNavigator.Proofs.FileTree.WellFormed
import Mathlib.Data.Multiset.ZeroCons

namespace CodeNavigator.FileTree

/-! ### Orders of enumeration -/

/-- Two trees differ at most in the order in which directories enumerate their entries. -/
inductive Reordered : FileTree → FileTree → Prop
  | refl (tree : FileTree) : Reordered tree tree
  | entries (mode : Mode) {entries others : List (String × FileTree)} (perm : entries.Perm others) :
    Reordered (.directory mode entries) (.directory mode others)
  | inside (mode : Mode) (front : List (String × FileTree)) (name : String)
    (rest : List (String × FileTree)) {found other : FileTree} (reordered : Reordered found other) :
    Reordered (.directory mode (front ++ (name, found) :: rest))
      (.directory mode (front ++ (name, other) :: rest))
  | trans {first second third : FileTree} (before : Reordered first second)
    (after : Reordered second third) : Reordered first third

/-- What can be seen of a tree from outside: what it is, and the names in it in no particular order,
with whether they stand for directories. -/
def sight : FileTree → FileTree × Multiset (String × Bool)
  | .directory mode entries =>
    (.directory mode [], (entries.map fun entry => (entry.1, entry.2.isDirectory) : List _))
  | found => (found, 0)

variable {tree other : FileTree} {name : String}

theorem Reordered.isDirectory_eq (reordered : tree.Reordered other) :
    other.isDirectory = tree.isDirectory := by
  induction reordered with
  | refl => rfl
  | entries => rfl
  | inside => rfl
  | trans _ _ before after => exact after.trans before

theorem Reordered.sight_eq (reordered : tree.Reordered other) : other.sight = tree.sight := by
  induction reordered with
  | refl => rfl
  | entries mode perm =>
    exact Prod.ext rfl (Multiset.coe_eq_coe.mpr (perm.symm.map _))
  | inside mode front name rest reordered _ =>
    simp only [sight, List.map_append, List.map_cons, reordered.isDirectory_eq]
  | trans _ _ before after => exact after.trans before

theorem areWellFormed_iff {entries : List (String × FileTree)} :
    AreWellFormed entries ↔ ∀ entry ∈ entries, IsName entry.1 ∧ entry.2.IsWellFormed := by
  induction entries with
  | nil => exact ⟨fun _ => nofun, fun _ => trivial⟩
  | cons entry rest inductionHypothesis =>
    rw [AreWellFormed, inductionHypothesis, List.forall_mem_cons, and_assoc]

theorem Reordered.isWellFormed (reordered : tree.Reordered other)
    (isWellFormed : tree.IsWellFormed) : other.IsWellFormed := by
  induction reordered with
  | refl => exact isWellFormed
  | entries mode perm =>
    obtain ⟨distinct, areWellFormed⟩ := isWellFormed
    refine ⟨(perm.map Prod.fst).nodup_iff.mp distinct, areWellFormed_iff.mpr fun entry member => ?_⟩
    exact areWellFormed_iff.mp areWellFormed entry (perm.mem_iff.mpr member)
  | @inside mode front name rest found other _ inductionHypothesis =>
    obtain ⟨distinct, areWellFormed⟩ := isWellFormed
    rw [areWellFormed_iff, List.forall_mem_append, List.forall_mem_cons] at areWellFormed
    obtain ⟨before, ⟨isName, here⟩, after⟩ := areWellFormed
    refine ⟨by simpa only [List.map_append, List.map_cons] using distinct, ?_⟩
    rw [areWellFormed_iff, List.forall_mem_append, List.forall_mem_cons]
    exact ⟨before, ⟨isName, inductionHypothesis here⟩, after⟩
  | trans _ _ before after => exact after (before isWellFormed)

/-! ### The same at each place -/

theorem Reordered.rel_refl (found : Option FileTree) : Option.Rel Reordered found found := by
  cases found with
  | none => exact .none
  | some found => exact .some (.refl found)

theorem Reordered.rel_trans {first second third : Option FileTree}
    (before : Option.Rel Reordered first second) (after : Option.Rel Reordered second third) :
    Option.Rel Reordered first third := by
  cases before with
  | none => exact after
  | some before =>
    cases after with
    | some after => exact .some (before.trans after)

/-- Under each name stand reorderings of each other. -/
theorem Reordered.child? (reordered : tree.Reordered other) (isWellFormed : tree.IsWellFormed)
    (name : String) : Option.Rel Reordered (tree.child? name) (other.child? name) := by
  induction reordered with
  | refl => exact rel_refl _
  | @entries mode entries others perm =>
    have otherIsWellFormed := (Reordered.entries mode perm).isWellFormed isWellFormed
    have same : (directory mode entries).child? name = (directory mode others).child? name :=
      Option.ext fun found => by
        rw [isWellFormed.child?_eq_some_iff, otherIsWellFormed.child?_eq_some_iff, perm.mem_iff]
    rw [same]
    exact rel_refl _
  | inside mode front called rest reordered _ =>
    simp only [FileTree.child?, List.find?_append, List.find?_cons]
    cases front.find? fun entry => entry.1 = name with
    | some entry => exact rel_refl _
    | none =>
      by_cases same : called = name
      · simp only [same, decide_true, Option.none_or, Option.map_some]
        exact .some reordered
      · simp only [same, decide_false]
        exact rel_refl _
  | trans before _ beforeChild afterChild =>
    exact rel_trans (beforeChild isWellFormed) (afterChild (before.isWellFormed isWellFormed))

theorem IsWellFormed.child? {found : FileTree} (isWellFormed : tree.IsWellFormed)
    (is : tree.child? name = some found) : found.IsWellFormed := by
  have reached : tree.at? [name] = some found := by
    rw [FileTree.at?, is]
    rfl
  exact isWellFormed.at? reached

theorem Reordered.at? (reordered : tree.Reordered other) (isWellFormed : tree.IsWellFormed)
    (names : List String) : Option.Rel Reordered (tree.at? names) (other.at? names) := by
  induction names generalizing tree other with
  | nil => exact .some reordered
  | cons name names inductionHypothesis =>
    have child := reordered.child? isWellFormed name
    rw [FileTree.at?, FileTree.at?]
    generalize is : tree.child? name = found at child
    generalize other.child? name = otherFound at child
    cases child with
    | none => exact .none
    | some child => exact inductionHypothesis child (isWellFormed.child? is)

/-- Two trees look the same at each place. -/
def LooksLike (tree other : FileTree) : Prop :=
  ∀ place, (other.look place).map sight = (tree.look place).map sight

theorem Reordered.looksLike (reordered : tree.Reordered other) (isWellFormed : tree.IsWellFormed) :
    tree.LooksLike other := by
  intro place
  have rel := reordered.at? isWellFormed place.reverse
  rw [look, look]
  generalize tree.at? place.reverse = found at rel
  generalize other.at? place.reverse = otherFound at rel
  cases rel with
  | none => rfl
  | some below => exact congrArg some below.sight_eq

/-! ### The same walks -/

/-- What is listed of some entries, apart from their order. -/
def SameNames (entries others : List (String × FileTree)) : Prop :=
  (entries.map fun entry => (entry.1, entry.2.isDirectory)).Perm
    (others.map fun entry => (entry.1, entry.2.isDirectory))

theorem sight_cases {found otherFound : Option FileTree}
    (same : otherFound.map sight = found.map sight) :
    (otherFound = found ∧ ∀ mode entries, found ≠ some (.directory mode entries)) ∨
      ∃ mode entries others, found = some (.directory mode entries) ∧
        otherFound = some (.directory mode others) ∧ SameNames entries others := by
  cases found with
  | none =>
    cases otherFound with
    | none => exact Or.inl ⟨rfl, nofun⟩
    | some => cases same
  | some found =>
    cases otherFound with
    | none => cases same
    | some otherFound =>
      obtain ⟨kind, names⟩ := Prod.ext_iff.mp (Option.some.inj same)
      cases found with
      | directory mode entries =>
        cases otherFound with
        | directory otherMode others =>
          cases kind
          exact Or.inr ⟨_, _, _, rfl, rfl, Multiset.coe_eq_coe.mp names.symm⟩
        | _ => cases kind
      | _ =>
        cases otherFound with
        | directory => cases kind
        | _ => exact Or.inl ⟨congrArg some kind, nofun⟩

section Walks

variable {start : Place} {path : Path}

theorem LooksLike.walkWith_eq (looksLike : tree.LooksLike other) (followsLast : Bool)
    (follow : Path → Place → List (List Char) → Except SystemError Destination) (place : Place)
    (steps : List (List Char)) :
    other.walkWith followsLast follow place steps =
      tree.walkWith followsLast follow place steps := by
  induction steps generalizing place with
  | nil => rfl
  | cons step rest inductionHypothesis =>
    rw [walkWith, walkWith]
    rcases sight_cases (looksLike place) with ⟨same, file⟩ | ⟨mode, entries, others, is, otherIs, _⟩
    · rw [same]
      split
      · next here => exact absurd here (file _ _)
      · rfl
    · rw [is, otherIs]
      simp only [inductionHypothesis]
      rcases sight_cases (looksLike (String.ofList step :: place)) with
        ⟨same, _⟩ | ⟨_, _, _, below, otherBelow, _⟩
      · rw [same]
      · rw [below, otherBelow]

theorem LooksLike.walk_eq (looksLike : tree.LooksLike other) (followsLast : Bool) (links : Nat)
    (place : Place) (steps : List (List Char)) :
    other.walk followsLast links place steps = tree.walk followsLast links place steps := by
  induction links generalizing place steps with
  | zero => exact looksLike.walkWith_eq _ _ _ _
  | succ links inductionHypothesis =>
    simp only [walk, inductionHypothesis]
    exact looksLike.walkWith_eq _ _ _ _

theorem LooksLike.locate_eq (looksLike : tree.LooksLike other) :
    other.locate start path = tree.locate start path := by
  simp only [locate, trace, looksLike.walk_eq]

/-- A path leads to the same in both trees. -/
theorem LooksLike.resolve_cases (looksLike : tree.LooksLike other) :
    (other.resolve start path = tree.resolve start path ∧
        ∀ mode entries, tree.resolve start path ≠ .ok (.directory mode entries)) ∨
      ∃ mode entries others, tree.resolve start path = .ok (.directory mode entries) ∧
        other.resolve start path = .ok (.directory mode others) ∧ SameNames entries others := by
  rw [resolve, resolve, looksLike.locate_eq]
  cases tree.locate start path with
  | error error =>
    refine Or.inl ⟨rfl, fun _ _ absurdly => ?_⟩
    cases absurdly
  | ok place =>
    simp only [Except.bind, FileTree.found]
    rcases sight_cases (looksLike place) with
      ⟨same, file⟩ | ⟨mode, entries, others, is, otherIs, names⟩
    · rw [same]
      refine Or.inl ⟨rfl, fun mode entries isDirectory => ?_⟩
      cases is : tree.look place with
      | none =>
        rw [is] at isDirectory
        cases isDirectory
      | some found =>
        rw [is] at isDirectory
        cases isDirectory
        exact file _ _ is
    · rw [is, otherIs]
      exact Or.inr ⟨mode, entries, others, rfl, rfl, names⟩

theorem LooksLike.leadsToDirectory_eq (looksLike : tree.LooksLike other) :
    other.leadsToDirectory start path = tree.leadsToDirectory start path := by
  rw [leadsToDirectory, leadsToDirectory]
  rcases looksLike.resolve_cases with ⟨same, _⟩ | ⟨_, _, _, is, otherIs, _⟩
  · rw [same]
  · rw [is, otherIs]
    rfl

/-- What is read by a path is the same but for the order. -/
theorem LooksLike.readDirectory_cases (looksLike : tree.LooksLike other) :
    (∃ error, tree.readDirectory start path = .error error ∧
        other.readDirectory start path = .error error) ∨
      ∃ entries others, tree.readDirectory start path = .ok entries ∧
        other.readDirectory start path = .ok others ∧ SameNames entries others := by
  rw [readDirectory, readDirectory]
  rcases looksLike.resolve_cases with ⟨same, file⟩ | ⟨mode, entries, others, is, otherIs, names⟩
  · rw [same]
    cases is : tree.resolve start path with
    | error error => exact Or.inl ⟨error, rfl, rfl⟩
    | ok found =>
      cases found with
      | directory mode entries => exact absurd is (file _ _)
      | _ => exact Or.inl ⟨_, rfl, rfl⟩
  · rw [is, otherIs]
    by_cases mayRead : mode.mayRead = true
    · exact Or.inr ⟨entries, others, if_pos mayRead, if_pos mayRead, names⟩
    · exact Or.inl ⟨_, if_neg mayRead, if_neg mayRead⟩

end Walks

end CodeNavigator.FileTree
