/-
This file proves that going up in the navigator comes to an end, and says where. No model is asked
on the way up, so nothing is known about an element but its texts: the root of its project and its
own path may be written in any way, and need not belong together.

Every step up from a resource takes one component off its path, which is why the way ends. Whether
it ends at the project depends on the first components alone. A path that goes on behind the root of
its project comes back to this root, one directory after the other, and the project is what stands
there. Any other path has no way up at all. The empty root is a case of its own, because every path
begins with it: a way up from an absolute path ends at the root of the file system and never comes
to the project.
-/

import CodeNavigator.Proofs.Navigator.Ancestry
import Mathlib.Data.List.Induction

namespace CodeNavigator

namespace Path

/-- One path has the components of another and one more. -/
def IsStepBelow (lower upper : Path) : Prop :=
  ∃ step, lower.components = upper.components ++ [step]

end Path

namespace Element

variable {owner : Project} {path : Path} {element : Element} {above : List Element}

/-! ### The way up -/

/-- Going up from an element passes these elements, the nearest first, and ends with them. -/
inductive Ascends : Element → List Element → Prop
  | nil {element : Element} (ends : element.parent? = none) : Ascends element []
  | cons {element parent : Element} {above : List Element} (next : element.parent? = some parent)
      (rest : Ascends parent above) : Ascends element (parent :: above)

/-- What is found above an element within a limit is the beginning of the way up. -/
theorem Ascends.ancestors_eq (ascends : element.Ascends above) (limit : Nat) :
    element.ancestors limit = above.take limit := by
  induction ascends generalizing limit with
  | nil ends =>
    cases limit with
    | zero => rfl
    | succ limit => rw [ancestors, ends, List.take_nil]
  | cons next rest inductionHypothesis =>
    cases limit with
    | zero => rfl
    | succ limit =>
      rw [ancestors, next]
      exact congrArg _ (inductionHypothesis limit)

/-! ### The way up ends -/

/-- The parent of a resource is its project, or a directory that is one component above it. -/
theorem parent?_resource_cases (owner : Project) (path : Path) (isDirectory : Bool) :
    (resource owner path isDirectory).parent? = none ∨
      (resource owner path isDirectory).parent? = some (.project owner) ∨
      ∃ directory, path.IsStepBelow directory ∧
        (resource owner path isDirectory).parent? = some (.resource owner directory true) := by
  rw [parent?]
  split
  · rcases path.parent_cases with ⟨none, _⟩ | ⟨directory, step, parent, _, shape⟩
    · rw [none]
      exact Or.inl rfl
    · rw [parent, Option.map_some]
      split
      · exact Or.inr (Or.inl rfl)
      · exact Or.inr (Or.inr ⟨directory, ⟨step, shape⟩, rfl⟩)
  · exact Or.inl rfl

theorem ascends_project (owner : Project) : (project owner).Ascends [] :=
  .nil rfl

/-- The way up from a resource ends, because every directory on it has fewer components. -/
theorem exists_ascends_resource (owner : Project) (path : Path) (isDirectory : Bool) :
    ∃ above, (resource owner path isDirectory).Ascends above := by
  induction length : path.components.length generalizing path isDirectory with
  | zero =>
    rcases parent?_resource_cases owner path isDirectory with none | next | ⟨_, ⟨step, shape⟩, _⟩
    · exact ⟨_, .nil none⟩
    · exact ⟨_, .cons next (ascends_project owner)⟩
    · rw [shape, List.length_append] at length
      cases length
  | succ count inductionHypothesis =>
    rcases parent?_resource_cases owner path isDirectory with
      none | next | ⟨directory, ⟨step, shape⟩, next⟩
    · exact ⟨_, .nil none⟩
    · exact ⟨_, .cons next (ascends_project owner)⟩
    · rw [shape, List.length_append, List.length_singleton] at length
      obtain ⟨above, rest⟩ := inductionHypothesis directory true (Nat.succ.inj length)
      exact ⟨_, .cons next rest⟩

theorem exists_ascends (element : Element) : ∃ above, element.Ascends above := by
  cases element with
  | project owner => exact ⟨_, ascends_project owner⟩
  | buildTargets owner => exact ⟨_, .cons rfl (ascends_project owner)⟩
  | buildTarget owner name path => exact ⟨_, .cons rfl (.cons rfl (ascends_project owner))⟩
  | resource owner path isDirectory => exact exists_ascends_resource owner path isDirectory

/-! ### The way up ends at the project -/

/-- The way up from below the root of a project passes one directory for each component between the
two, and ends at the project. -/
theorem exists_directories {rest : List Path.Component} (isDirectory : Bool)
    (root : owner.root.components ≠ []) (proper : rest ≠ [])
    (below : path.components = owner.root.components ++ rest) :
    ∃ directories : List Path, rest.length = directories.length + 1 ∧
      (path :: (directories ++ [owner.root])).IsChain Path.IsStepBelow ∧
      (resource owner path isDirectory).Ascends
        (directories.map (resource owner · true) ++ [.project owner]) := by
  induction rest using List.reverseRecOn generalizing path isDirectory with
  | nil => exact absurd rfl proper
  | append_singleton front last inductionHypothesis =>
    rw [← List.append_assoc] at below
    have behind : owner.root.components ++ front ≠ [] := fun empty =>
      root (List.append_eq_nil_iff.mp empty).1
    obtain ⟨directory, components, next⟩ := parent?_resource isDirectory below
      (Path.ne_root_of_components below behind) (List.prefix_append _ _)
    have stepBelow : path.IsStepBelow directory := ⟨last, by rw [components, below]⟩
    rw [List.length_append, List.length_singleton]
    by_cases top : front = []
    · rw [top, List.append_nil] at components
      have atRoot : directory.Same owner.root := components
      rw [if_pos atRoot] at next
      have belowRoot : path.IsStepBelow owner.root := ⟨last, by rw [below, top, List.append_nil]⟩
      exact ⟨[], by rw [top]; rfl, .cons_cons belowRoot (.singleton _),
        .cons next (ascends_project owner)⟩
    · have between : ¬ directory.Same owner.root := by
        intro same
        exact top (List.append_right_eq_self.mp (components.symm.trans same))
      rw [if_neg between] at next
      obtain ⟨directories, length, chain, rest⟩ := inductionHypothesis true top components
      exact ⟨directory :: directories, by rw [length]; rfl, .cons_cons stepBelow chain,
        .cons next rest⟩

/-- A resource has no parent if its path is the root of its project or does not begin with it. -/
theorem parent?_resource_eq_none (isDirectory : Bool)
    (apart : path.Same owner.root ∨ path.startsWith owner.root = false) :
    (resource owner path isDirectory).parent? = none := by
  rw [parent?, if_neg]
  rintro ⟨starts, deeper⟩
  rcases apart with same | stray
  · exact deeper same
  · rw [stray] at starts
    cases starts

end Element

/-- Every way up ends, at the right place.

Going up from any element passes finitely many elements, and what is found above it within a limit
is the beginning of these. Take a resource whose path goes on behind the root of its project by some
components, where the root is not empty. The way up passes one directory less than there are such
components, all of the same project and each one component above the one before, and ends at the
project. A resource at the root of its project, or beside it, has no parent. -/
theorem ascent_ends_at_project :
    (∀ element : Element, ∃ above, element.Ascends above ∧
      ∀ limit, element.ancestors limit = above.take limit) ∧
    (∀ (owner : Project) (path : Path) (isDirectory : Bool) (rest : List Path.Component),
      owner.root.text ≠ "" → rest ≠ [] → path.components = owner.root.components ++ rest →
      ∃ directories : List Path, rest.length = directories.length + 1 ∧
        (path :: (directories ++ [owner.root])).IsChain Path.IsStepBelow ∧
        (Element.resource owner path isDirectory).Ascends
          (directories.map (Element.resource owner · true) ++ [.project owner])) ∧
    ∀ (owner : Project) (path : Path) (isDirectory : Bool),
      path.Same owner.root ∨ path.startsWith owner.root = false →
      (Element.resource owner path isDirectory).parent? = none := by
  refine ⟨fun element => ?_, fun owner path isDirectory rest named proper below => ?_,
    fun owner path isDirectory apart => ?_⟩
  · obtain ⟨above, ascends⟩ := element.exists_ascends
    exact ⟨above, ascends, ascends.ancestors_eq⟩
  · have root : owner.root.components ≠ [] := Path.components_eq_nil_iff.not.mpr named
    exact Element.exists_directories isDirectory root proper below
  · exact Element.parent?_resource_eq_none isDirectory apart

/-- The path ends in two dots, which are a component like any other, and neither it nor the root of
the project is written plainly. Beside the project there is no way up. -/
theorem ascent_ends_at_project_from_two_dots :
    let owner : Project := ⟨"hello", ⟨"//ws/."⟩⟩
    let path : Path := ⟨"/ws/./cmd//../"⟩
    let stray : Path := ⟨"ws/cmd"⟩
    owner.root.text ≠ "" ∧ path.components = owner.root.components ++ [.normal "cmd", .parent] ∧
    (∃ directory : Path, path.IsStepBelow directory ∧ directory.IsStepBelow owner.root ∧
      (Element.resource owner path false).Ascends
        [.resource owner directory true, .project owner]) ∧
    stray.startsWith owner.root = false ∧ (Element.resource owner stray true).parent? = none := by
  intro owner path stray
  have named : owner.root.text ≠ "" := by decide
  have below : path.components = owner.root.components ++ [.normal "cmd", .parent] := by decide
  have apart : stray.startsWith owner.root = false := by decide
  obtain ⟨directories, length, chain, ascends⟩ :=
    ascent_ends_at_project.2.1 owner path false _ named (List.cons_ne_nil _ _) below
  obtain ⟨directory, rfl⟩ := List.length_eq_one_iff.mp (Nat.succ.inj length).symm
  obtain ⟨first, second⟩ := List.isChain_cons_cons.mp chain
  exact ⟨named, below, ⟨directory, first, (List.isChain_cons_cons.mp second).1, ascends⟩, apart,
    ascent_ends_at_project.2.2 owner stray true (Or.inr apart)⟩

end CodeNavigator
