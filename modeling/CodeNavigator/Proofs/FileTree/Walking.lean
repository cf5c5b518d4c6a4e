/-
This file follows a path one name further. When a path leads to a directory, the walk along a longer
path comes to this directory too and goes on from there, whatever links were on the way, and how the
path is spelled does not matter. A directory that stands in the tree below another one is therefore
what the path to it leads to, if this path can be followed at all.
-/

import CodeNavigator.Proofs.FileTree.WellFormed

namespace CodeNavigator.FileTree

variable {tree : FileTree} {start place here : Place} {links : Nat}
  {steps ending : List (List Char)}

/-! ### Walks that go on -/

/-- What the first step of a walk does is the same whatever follows: it leads to a place, or meets a
link, or ends the walk without anything that is there. -/
theorem walkWith_cons_cases (tree : FileTree) (place : Place) (step : List Char) :
    (∃ next, ∀ follow rest,
      tree.walkWith true follow place (step :: rest) = tree.walkWith true follow next rest) ∨
    (∃ target, ∀ follow rest,
      tree.walkWith true follow place (step :: rest) = follow target place rest) ∨
    ∀ follow rest here, tree.walkWith true follow place (step :: rest) ≠ .ok (.existing here) := by
  cases found : tree.look place with
  | none => exact Or.inr (Or.inr fun follow rest here => by simp [walkWith, found])
  | some foundHere =>
    cases foundHere with
    | directory mode entries =>
      by_cases nothing : step = []
      · exact Or.inl ⟨place, fun follow rest => by simp [walkWith, found, nothing]⟩
      cases mayExecute : mode.mayExecute with
      | false =>
        exact Or.inr (Or.inr fun follow rest here => by
          simp [walkWith, found, nothing, mayExecute])
      | true =>
        by_cases dot : step = ['.']
        · exact Or.inl ⟨place, fun follow rest => by simp [walkWith, found, mayExecute, dot]⟩
        by_cases up : step = ['.', '.']
        · exact Or.inl ⟨place.tail, fun follow rest => by simp [walkWith, found, mayExecute, up]⟩
        by_cases long : longestName < (String.ofList step).utf8ByteSize
        · exact Or.inr (Or.inr fun follow rest here => by
            simp [walkWith, found, mayExecute, nothing, dot, up, long])
        cases there : tree.look (String.ofList step :: place) with
        | none =>
          refine Or.inr (Or.inr fun follow rest here => ?_)
          cases missing : rest.all List.isEmpty <;>
            simp [walkWith, found, mayExecute, nothing, dot, up, long, there, missing]
        | some foundThere =>
          cases foundThere with
          | link target =>
            exact Or.inr (Or.inl ⟨target, fun follow rest => by
              simp [walkWith, found, mayExecute, nothing, dot, up, long, there]⟩)
          | _ =>
            exact Or.inl ⟨String.ofList step :: place, fun follow rest => by
              simp [walkWith, found, mayExecute, nothing, dot, up, long, there]⟩
    | _ => exact Or.inr (Or.inr fun follow rest here => by simp [walkWith, found])

/-- A walk goes on along whatever follows, if the walks behind its links do. -/
theorem walk_append_of_follow
    {follow : Path → Place → List (List Char) → Except SystemError Destination}
    (is : tree.walk true links = tree.walkWith true follow)
    (follows : ∀ target place steps,
      follow target place (steps ++ ending) = .ok (.existing here) →
        ∃ left, ∀ rest, follow target place (steps ++ rest) = tree.walk true left here rest)
    (blank : ending = [] ∨ ending = [[]])
    (reached : tree.walk true links place (steps ++ ending) = .ok (.existing here)) :
    ∃ left, ∀ rest, tree.walk true links place (steps ++ rest) = tree.walk true left here rest := by
  induction steps generalizing place with
  | nil =>
    -- Nothing but a slash is left, so the walk stays where it is.
    have stays : here = place := by
      rw [is] at reached
      rcases blank with rfl | rfl
      · cases reached
        rfl
      · simp only [List.nil_append, walkWith] at reached
        split at reached
        · cases reached
          rfl
        · cases reached
    exact ⟨links, fun rest => by rw [stays]; rfl⟩
  | cons step steps inductionHypothesis =>
    rw [is] at reached inductionHypothesis ⊢
    simp only [List.cons_append] at reached ⊢
    rcases walkWith_cons_cases tree place step with ⟨next, leads⟩ | ⟨target, meets⟩ | ends
    · simp only [leads] at reached ⊢
      exact inductionHypothesis reached
    · simp only [meets] at reached ⊢
      exact follows target place steps reached
    · exact absurd reached (ends _ _ _)

/-- A walk that ends somewhere, possibly at a slash, goes on from there along whatever follows. -/
theorem walk_append (blank : ending = [] ∨ ending = [[]])
    (reached : tree.walk true links place (steps ++ ending) = .ok (.existing here)) :
    ∃ left, ∀ rest, tree.walk true links place (steps ++ rest) = tree.walk true left here rest := by
  induction links generalizing place steps with
  | zero => exact walk_append_of_follow rfl nofun blank reached
  | succ links inductionHypothesis =>
    refine walk_append_of_follow rfl (fun target place steps reached => ?_) blank reached
    simp only [← List.append_assoc] at reached ⊢
    exact inductionHypothesis reached

/-! ### One name further -/

variable {directory : Path} {name : String} {mode below : Mode}
  {entries inside found : List (String × FileTree)} {other : Place}

/-- What it takes for a path to lead somewhere. -/
theorem locate_eq_ok_iff :
    tree.locate start directory = .ok place ↔
      '\x00' ∉ directory.text.toList ∧ directory.text ≠ "" ∧
        directory.text.utf8ByteSize ≤ longestPath ∧
        tree.walk true linkLimit (if directory.isAbsolute then [] else start)
          (segments directory) = .ok (.existing place) := by
  have contains : directory.text.contains '\x00' = true ↔ '\x00' ∈ directory.text.toList := by simp
  rw [← contains]
  constructor
  · intro located
    cases traced : tree.trace true start directory with
    | error error =>
      rw [locate, traced] at located
      cases located
    | ok destination =>
      rw [locate, traced] at located
      cases destination with
      | missing => cases located
      | existing there =>
        cases located
        rw [trace] at traced
        split at traced
        · cases traced
        · next noNul =>
          split at traced
          · cases traced
          · next nonempty =>
            split at traced
            · cases traced
            · next short => exact ⟨noNul, nonempty, Nat.not_lt.mp short, traced⟩
  · rintro ⟨noNul, nonempty, short, walked⟩
    rw [locate, trace, if_neg noNul, if_neg nonempty, if_neg (Nat.not_lt.mpr short), walked]
    rfl

/-- The segments of a path with one more name at its end. -/
theorem segments_join (isName : IsName name) (nonempty : directory.text ≠ "") :
    (directory.join ⟨name⟩).isAbsolute = directory.isAbsolute ∧
      ∃ steps ending, (ending = [] ∨ ending = [[]]) ∧ segments directory = steps ++ ending ∧
        segments (directory.join ⟨name⟩) = steps ++ [name.toList] := by
  have relative := Path.isAbsolute_of_plain_step isName.components_eq
  rcases Path.join_cases directory relative with ⟨empty, _⟩ | ⟨front, text, joined⟩ | ⟨_, joined⟩
  · exact absurd (String.toList_eq_nil_iff.mp empty) nonempty
  · refine ⟨?_, Text.split '/' front, [[]], Or.inr rfl, ?_, ?_⟩
    · rw [Path.isAbsolute, Path.isAbsolute, text, joined]
      cases front <;> rfl
    · rw [segments, text, Text.split_append_cons]
      rfl
    · rw [segments, joined, Text.split_append_cons, isName.split_eq]
  · refine ⟨?_, segments directory, [], Or.inl rfl, (List.append_nil _).symm, ?_⟩
    · rw [Path.isAbsolute, Path.isAbsolute, joined]
      cases text : directory.text.toList with
      | nil => exact absurd (String.toList_eq_nil_iff.mp text) nonempty
      | cons first rest => rfl
    · rw [segments, joined, Text.split_append_cons, isName.split_eq]
      rfl

/-- A path with one more name at its end is as good a text as the path. -/
theorem text_join (isName : IsName name) (noNul : '\x00' ∉ directory.text.toList) :
    '\x00' ∉ (directory.join ⟨name⟩).text.toList ∧ (directory.join ⟨name⟩).text ≠ "" := by
  have relative := Path.isAbsolute_of_plain_step isName.components_eq
  have noNulInName : '\x00' ∉ (⟨name⟩ : Path).text.toList := isName.noNul
  rw [Ne, ← String.toList_eq_nil_iff]
  rcases Path.join_cases directory relative with ⟨_, same⟩ | ⟨front, text, joined⟩ | ⟨_, joined⟩
  · rw [same]
    exact ⟨noNulInName, isName.ne_nil⟩
  · rw [text] at noNul
    rw [joined]
    simp_all
  · rw [joined]
    simp_all

/-- A walk of one name from a directory ends at what has the name, if that is no link, if the directory
may be walked through and if the name is not too long. -/
theorem walk_name_iff (isName : IsName name)
    (here : tree.look place = some (.directory mode entries))
    (noLink : ∀ target, tree.look (name :: place) ≠ some (.link target)) :
    tree.walk true links place [name.toList] = .ok (.existing other) ↔
      other = name :: place ∧ (tree.look (name :: place)).isSome = true ∧
        mode.mayExecute = true ∧ name.utf8ByteSize ≤ longestName := by
  obtain ⟨follow, is⟩ : ∃ follow, tree.walk true links = tree.walkWith true follow := by
    cases links <;> exact ⟨_, rfl⟩
  rw [is]
  simp only [walkWith, here, if_neg isName.ne_nil, if_neg isName.ne_current,
    if_neg isName.ne_parent, String.ofList_toList]
  cases mode.mayExecute with
  | false => simp
  | true =>
    by_cases long : longestName < name.utf8ByteSize
    · simp [long]
    · have short := Nat.not_lt.mp long
      cases there : tree.look (name :: place) with
      | none => simp [long]
      | some found =>
        cases found with
        | link target => exact absurd there (noLink target)
        | _ => simp [long, short, eq_comm]

/-- The path to a name in a directory leads to what has the name, under the same conditions and if the
path is not too long. -/
theorem locate_join_iff_of_no_link (isName : IsName name)
    (located : tree.locate start directory = .ok place)
    (here : tree.look place = some (.directory mode entries))
    (noLink : ∀ target, tree.look (name :: place) ≠ some (.link target)) :
    tree.locate start (directory.join ⟨name⟩) = .ok other ↔
      other = name :: place ∧ (tree.look (name :: place)).isSome = true ∧
        mode.mayExecute = true ∧ name.utf8ByteSize ≤ longestName ∧
        (directory.join ⟨name⟩).text.utf8ByteSize ≤ longestPath := by
  obtain ⟨noNul, nonempty, _, walked⟩ := locate_eq_ok_iff.mp located
  obtain ⟨base, steps, ending, blank, segments, joined⟩ := segments_join isName nonempty
  obtain ⟨noNulThere, nonemptyThere⟩ := text_join isName noNul
  rw [segments] at walked
  obtain ⟨left, goesOn⟩ := walk_append blank walked
  rw [locate_eq_ok_iff, base, joined, goesOn, walk_name_iff isName here noLink]
  exact ⟨fun ⟨_, _, short, is, found, through, name⟩ => ⟨is, found, through, name, short⟩,
    fun ⟨is, found, through, name, short⟩ =>
      ⟨noNulThere, nonemptyThere, short, is, found, through, name⟩⟩

/-- A directory in a directory is what the path to it leads to, and the path leads there if the outer
directory may be walked through and nothing is too long. -/
theorem locate_join_iff (isName : IsName name)
    (located : tree.locate start directory = .ok place)
    (here : tree.look place = some (.directory mode entries))
    (there : tree.look (name :: place) = some (.directory below inside)) :
    tree.locate start (directory.join ⟨name⟩) = .ok other ↔
      other = name :: place ∧ mode.mayExecute = true ∧ name.utf8ByteSize ≤ longestName ∧
        (directory.join ⟨name⟩).text.utf8ByteSize ≤ longestPath := by
  have noLink : ∀ target, tree.look (name :: place) ≠ some (.link target) := by
    rw [there]
    exact fun target => nofun
  rw [locate_join_iff_of_no_link isName located here noLink, there]
  exact and_congr_right fun _ => and_iff_right rfl

/-- A name that is no link leads to a directory only where a directory of that name stands. -/
theorem exists_mem_of_readDirectory_join (isName : IsName name)
    (located : tree.locate start directory = .ok place)
    (here : tree.look place = some (.directory mode entries))
    (noLink : ∀ target, (name, .link target) ∉ entries)
    (read : tree.readDirectory start (directory.join ⟨name⟩) = .ok inside) :
    ∃ below, (name, .directory below inside) ∈ entries := by
  have there : tree.look (name :: place) = (FileTree.directory mode entries).child? name := by
    rw [look_cons, here]
    rfl
  have noLinkThere : ∀ target, tree.look (name :: place) ≠ some (.link target) := by
    rw [there]
    exact fun target is => noLink target (mem_of_child? is)
  obtain ⟨other, below, locatedBelow, is, _⟩ := readDirectory_eq_ok_iff.mp read
  obtain ⟨rfl, _⟩ := (locate_join_iff_of_no_link isName located here noLinkThere).mp locatedBelow
  exact ⟨below, mem_of_child? (there.symm.trans is)⟩

/-- What is read of a directory in a directory are its own entries. It can be read unless its mode, or
that of the outer directory, or the length of a text forbids it. -/
theorem readDirectory_join_iff (isWellFormed : tree.IsWellFormed)
    (located : tree.locate start directory = .ok place)
    (here : tree.look place = some (.directory mode entries))
    (member : (name, .directory below inside) ∈ entries) :
    tree.readDirectory start (directory.join ⟨name⟩) = .ok found ↔
      found = inside ∧ below.mayRead = true ∧ mode.mayExecute = true ∧
        name.utf8ByteSize ≤ longestName ∧
        (directory.join ⟨name⟩).text.utf8ByteSize ≤ longestPath := by
  have isName := ((isWellFormed.look here).of_mem member).1
  have there : tree.look (name :: place) = some (.directory below inside) := by
    rw [look_cons, here]
    exact (isWellFormed.look here).child?_eq_some_iff.mpr member
  rw [readDirectory_eq_ok_iff]
  constructor
  · rintro ⟨other, _, locatedBelow, is, mayRead⟩
    obtain ⟨rfl, rest⟩ := (locate_join_iff isName located here there).mp locatedBelow
    cases there.symm.trans is
    exact ⟨rfl, mayRead, rest⟩
  · rintro ⟨rfl, mayRead, rest⟩
    exact ⟨_, below, (locate_join_iff isName located here there).mpr ⟨rfl, rest⟩, there, mayRead⟩

end CodeNavigator.FileTree
