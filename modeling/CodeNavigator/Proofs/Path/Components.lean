/-
This file says what joins and parents do to the components of a path. A join with one plain step
adds this step at the end, and a parent leaves the last component out, however the path is spelled.
-/

import CodeNavigator.Path
import CodeNavigator.Proofs.Text.Split

namespace CodeNavigator.Path

/-! ### Taking a text apart -/

/-- A text has no first component of its own if it begins with a segment that is neither empty nor a
dot. -/
theorem anatomy_of_plain {segment rest : List Char} (noSlash : '/' ∉ segment)
    (visible : isBlank segment = false) (ends : rest = [] ∨ ∃ more, rest = '/' :: more) :
    anatomy (segment ++ rest) = (none, [], Text.split '/' (segment ++ rest)) := by
  cases segment with
  | nil => cases visible
  | cons first others =>
    rw [List.cons_append, anatomy]
    · rintro more same
      exact noSlash ((List.cons.inj same).1 ▸ List.mem_cons_self)
    · intro same
      obtain ⟨rfl, nothing⟩ := List.cons.inj same
      obtain ⟨rfl, rfl⟩ := List.append_eq_nil_iff.mp nothing
      cases visible
    · intro more same
      obtain ⟨rfl, tails⟩ := List.cons.inj same
      cases others with
      | nil => cases visible
      | cons second others =>
        refine noSlash (List.mem_cons_of_mem _ ?_)
        exact (List.cons.inj tails).1 ▸ List.mem_cons_self

/-- What follows a slash adds its own segments. -/
theorem anatomy_append_slash {front : List Char} (nonempty : front ≠ []) (rest : List Char) :
    anatomy (front ++ '/' :: rest) =
      ((anatomy front).1, (anatomy front).2.1, (anatomy front).2.2 ++ Text.split '/' rest) := by
  fun_cases anatomy front with
  | case1 more => rw [List.cons_append, anatomy, Text.split_append_cons]
  | case2 => rfl
  | case3 more =>
    rw [List.cons_append, List.cons_append, anatomy, Text.split_append_cons]
    rfl
  | case4 all noSlash noDot noDotSlash =>
    obtain ⟨first, others, rfl⟩ := List.exists_cons_of_ne_nil nonempty
    rw [List.cons_append, anatomy, ← List.cons_append, Text.split_append_cons]
    · intro more same
      exact noSlash others (congrArg (· :: others) (List.cons.inj same).1)
    · intro same
      simp at same
    · intro more same
      obtain ⟨rfl, tails⟩ := List.cons.inj same
      cases others with
      | nil => exact noDot rfl
      | cons second others => exact noDotSlash others (by rw [(List.cons.inj tails).1])

/-- A blank segment at the front is read as the root or as a dot, unless nothing else is there. -/
theorem anatomy_fst_of_blank {segment : List Char} (others : List (List Char))
    (blank : isBlank segment = true) :
    (segment = [] ∧ others = []) ∨ (anatomy (Text.join '/' (segment :: others))).1 ≠ none := by
  simp only [isBlank, Bool.or_eq_true, decide_eq_true_eq] at blank
  rcases blank with rfl | rfl
  · cases others with
    | nil => exact Or.inl ⟨rfl, rfl⟩
    | cons second more => exact Or.inr nofun
  · cases others with
    | nil => exact Or.inr nofun
    | cons second more => exact Or.inr nofun

/-- The text of some of the first segments has these segments. -/
theorem anatomy_append_join {text lead : List Char} {first : Option Component}
    {segments kept : List (List Char)} (parts : anatomy text = (first, lead, segments))
    (before : kept <+: segments) :
    anatomy (lead ++ Text.join '/' kept) = (first, lead, if kept = [] then [[]] else kept) := by
  have rejoined {kept : List (List Char)} {rest : List Char}
      (before : kept <+: Text.split '/' rest) :
      Text.split '/' (Text.join '/' kept) = if kept = [] then [[]] else kept := by
    split
    · next empty => rw [empty]; rfl
    · next nonempty =>
      exact Text.split_join nonempty fun part member =>
        Text.not_mem_of_mem_split (before.subset member)
  revert parts
  fun_cases anatomy text with
  | case1 more =>
    rintro ⟨⟩
    rw [List.singleton_append, anatomy, rejoined before]
  | case2 =>
    rintro ⟨⟩
    cases kept with
    | nil => rfl
    | cons segment others =>
      obtain ⟨rfl, rfl⟩ := List.cons_prefix_cons.mp before |>.imp_right List.prefix_nil.mp
      rfl
  | case3 more =>
    rintro ⟨⟩
    cases kept with
    | nil => rfl
    | cons segment others =>
      obtain ⟨rfl, later⟩ := List.cons_prefix_cons.mp before
      cases others with
      | nil => rfl
      | cons second others =>
        have join : ['.'] ++ Text.join '/' ([] :: second :: others) =
            '.' :: '/' :: Text.join '/' (second :: others) := rfl
        rw [join, anatomy, rejoined later]
        rfl
  | case4 all noSlash noDot noDotSlash =>
    rintro ⟨⟩
    cases kept with
    | nil => rfl
    | cons segment others =>
      have noSlashInside : '/' ∉ segment :=
        Text.not_mem_of_mem_split (before.subset List.mem_cons_self)
      obtain ⟨after, whole⟩ := before
      have written : text = Text.join '/' (segment :: (others ++ after)) := by
        rw [← List.cons_append, whole, Text.join_split]
      cases visible : isBlank segment with
      | false =>
        have joined : ∃ rest, Text.join '/' (segment :: others) = segment ++ rest ∧
            (rest = [] ∨ ∃ more, rest = '/' :: more) := by
          cases others with
          | nil => exact ⟨[], (List.append_nil segment).symm, Or.inl rfl⟩
          | cons second others => exact ⟨_, rfl, Or.inr ⟨_, rfl⟩⟩
        obtain ⟨rest, joined, ends⟩ := joined
        rw [List.nil_append, joined, anatomy_of_plain noSlashInside visible ends, ← joined,
          rejoined ⟨after, whole⟩]
      | true =>
        rcases anatomy_fst_of_blank (others ++ after) visible with ⟨rfl, none⟩ | read
        · rw [(List.append_eq_nil_iff.mp none).1]
          rfl
        · refine absurd ?_ read
          rw [← written, anatomy] <;> assumption

/-! ### Components -/

theorem components_eq {path : Path} {first : Option Component} {lead : List Char}
    {segments : List (List Char)} (parts : anatomy path.text.toList = (first, lead, segments)) :
    path.components = first.toList ++ segments.filterMap component? := by
  rw [components, parts]

/-- The step that a segment names, if it is not blank. No segment names the root. -/
theorem exists_component? {segment : List Char} (visible : isBlank segment ≠ true) :
    ∃ step, component? segment = some step ∧ step ≠ .root := by
  rw [component?, if_neg visible]
  split
  · exact ⟨_, rfl, nofun⟩
  · exact ⟨_, rfl, nofun⟩

/-- A segment that stands alone is its only step. -/
theorem components_of_segment {segment : List Char} {step : Component} (noSlash : '/' ∉ segment)
    (names : component? segment = some step) :
    (⟨String.ofList segment⟩ : Path).components = [step] := by
  have visible : isBlank segment = false := by
    refine Bool.eq_false_iff.mpr fun blank => ?_
    rw [component?, if_pos blank] at names
    cases names
  have plain := anatomy_of_plain noSlash visible (Or.inl rfl)
  rw [List.append_nil, Text.split_of_not_mem noSlash] at plain
  rw [components, String.toList_ofList, plain]
  dsimp only
  rw [List.filterMap_cons_some names]
  rfl

theorem not_mem_of_mem_anatomy {text segment : List Char} (member : segment ∈ (anatomy text).2.2) :
    '/' ∉ segment := by
  revert member
  fun_cases anatomy text with
  | case1 rest => exact Text.not_mem_of_mem_split
  | case2 => simp +contextual
  | case3 rest =>
    intro member
    rcases List.mem_cons.mp member with rfl | member
    · exact List.not_mem_nil
    · exact Text.not_mem_of_mem_split member
  | case4 => exact Text.not_mem_of_mem_split

/-- Only the empty path has no components. -/
theorem components_eq_nil_iff {path : Path} : path.components = [] ↔ path.text = "" := by
  constructor
  · intro nothing
    obtain ⟨segment, others, parts⟩ :=
      List.exists_cons_of_ne_nil (Text.split_ne_nil '/' path.text.toList)
    have written := Text.join_split '/' path.text.toList
    rw [parts] at written
    have read : (anatomy path.text.toList).1 = none ∧ component? segment = none := by
      rw [components] at nothing
      revert nothing parts
      fun_cases anatomy path.text.toList with
      | case4 =>
        intro nothing parts
        have listed : segment ∈ segment :: others := List.mem_cons_self
        rw [← parts] at listed
        exact ⟨rfl, List.filterMap_eq_nil_iff.mp nothing segment listed⟩
      | _ => simp
    have blank : isBlank segment = true := by
      by_contra visible
      obtain ⟨step, names, _⟩ := exists_component? visible
      rw [read.2] at names
      cases names
    rcases anatomy_fst_of_blank others blank with ⟨rfl, rfl⟩ | first
    · exact String.toList_eq_nil_iff.mp written.symm
    · rw [written] at first
      exact absurd read.1 first
  · intro empty
    rw [components, empty]
    rfl

/-- What follows a slash adds its own components. -/
theorem components_append_slash {path : Path} {front rest : List Char} (nonempty : front ≠ [])
    (text : path.text.toList = front ++ '/' :: rest) :
    path.components =
      (⟨String.ofList front⟩ : Path).components ++
        (Text.split '/' rest).filterMap component? := by
  simp only [components, text, String.toList_ofList, anatomy_append_slash nonempty,
    List.filterMap_append, List.append_assoc]

/-- The first component that is read off the beginning of a text is the root or a dot. -/
theorem anatomy_fst_cases (text : List Char) :
    (anatomy text).1 = none ∨ (anatomy text).1 = some .root ∨ (anatomy text).1 = some .current := by
  fun_cases anatomy text <;> simp

/-- A name that stands in a path is a path of one step. -/
theorem components_of_mem {path : Path} {name : String}
    (member : .normal name ∈ path.components) : (⟨name⟩ : Path).components = [.normal name] := by
  rw [components] at member
  rcases List.mem_append.mp member with first | step
  · have read : (anatomy path.text.toList).1 = some (.normal name) := Option.mem_toList.mp first
    rcases anatomy_fst_cases path.text.toList with none | root | current
    · cases none.symm.trans read
    · cases root.symm.trans read
    · cases current.symm.trans read
  · obtain ⟨segment, listed, names⟩ := List.mem_filterMap.mp step
    have called : String.ofList segment = name := by
      rw [component?] at names
      split at names
      · cases names
      · split at names <;> cases names
        rfl
    rw [← called, components_of_segment (not_mem_of_mem_anatomy listed) names, called]

/-- A path is called by the name that it ends in. -/
theorem exists_components_of_fileName {path : Path} {name : String}
    (called : path.fileName = some name) : ∃ front, path.components = front ++ [.normal name] := by
  rw [fileName] at called
  split at called
  · next last =>
    cases called
    exact List.getLast?_eq_some_iff.mp last
  · cases called

/-- A path of one plain step begins with this step. -/
theorem anatomy_of_plain_step {path : Path} {step : String}
    (plain : path.components = [.normal step]) :
    (anatomy path.text.toList).1 = none ∧
      (Text.split '/' path.text.toList).filterMap component? = [.normal step] := by
  rw [components] at plain
  revert plain
  fun_cases anatomy path.text.toList with
  | case4 => exact fun plain => ⟨rfl, plain⟩
  | _ =>
    intro plain
    simp at plain

theorem isAbsolute_of_plain_step {path : Path} {step : String}
    (plain : path.components = [.normal step]) : path.isAbsolute = false := by
  have first := (anatomy_of_plain_step plain).1
  cases text : path.text.toList with
  | nil => simp [isAbsolute, text]
  | cons character rest =>
    by_cases slash : character = '/'
    · rw [text, slash, anatomy] at first
      cases first
    · simp [isAbsolute, text, slash]

/-! ### Joins -/

/-- A join with a path that does not start at the root puts one slash between the two texts, unless
nothing stands before it. -/
theorem join_cases (left : Path) {right : Path} (relative : right.isAbsolute = false) :
    left.text.toList = [] ∧ left.join right = right ∨
      (∃ front, left.text.toList = front ++ ['/'] ∧
        (left.join right).text.toList = front ++ '/' :: right.text.toList) ∨
      left.text.toList ≠ [] ∧
        (left.join right).text.toList = left.text.toList ++ '/' :: right.text.toList := by
  rw [join, if_neg (by rw [relative]; exact Bool.false_ne_true)]
  split
  · next last =>
    have empty := List.getLast?_eq_none_iff.mp last
    refine Or.inl ⟨empty, ?_⟩
    rw [String.toList_eq_nil_iff.mp empty, String.empty_append]
  · next last =>
    obtain ⟨front, text⟩ := List.getLast?_eq_some_iff.mp last
    refine Or.inr (Or.inl ⟨front, text, ?_⟩)
    rw [String.toList_append, text, List.append_assoc, List.singleton_append]
  · next character _ last =>
    refine Or.inr (Or.inr ⟨?_, ?_⟩)
    · intro empty
      rw [empty] at last
      cases last
    · rw [String.toList_append, String.toList_append, List.append_assoc]
      rfl

/-- A join with one plain step adds this step at the end. -/
theorem components_join (directory : Path) {name : Path} {step : String}
    (plain : name.components = [.normal step]) :
    (directory.join name).components = directory.components ++ [.normal step] := by
  have steps := (anatomy_of_plain_step plain).2
  rcases join_cases directory (isAbsolute_of_plain_step plain) with
    ⟨empty, same⟩ | ⟨front, text, joined⟩ | ⟨nonempty, joined⟩
  · rw [same, plain, components, empty]
    rfl
  · cases front with
    | nil =>
      rw [components, joined, components, text]
      simp only [List.nil_append, anatomy, steps]
      rfl
    | cons first others =>
      have same : directory.components = (⟨String.ofList (first :: others)⟩ : Path).components :=
        (components_append_slash (List.cons_ne_nil _ _) text).trans (List.append_nil _)
      rw [components_append_slash (List.cons_ne_nil _ _) joined, steps, same]
  · rw [components_append_slash nonempty joined, steps, String.ofList_toList]

/-- A join with one plain step is called by this step. -/
theorem fileName_join (directory : Path) {name : Path} {step : String}
    (plain : name.components = [.normal step]) : (directory.join name).fileName = some step := by
  rw [fileName, components_join directory plain, List.getLast?_concat]

/-! ### Parents -/

theorem filterMap_dropWhile_isBlank (segments : List (List Char)) :
    (segments.dropWhile isBlank).filterMap component? = segments.filterMap component? := by
  induction segments with
  | nil => rfl
  | cons segment rest inductionHypothesis =>
    cases blank : isBlank segment with
    | true =>
      have nothing : component? segment = none := if_pos blank
      rw [List.dropWhile_cons_of_pos blank, List.filterMap_cons_none nothing, inductionHypothesis]
    | false => rw [List.dropWhile_cons_of_neg (by rw [blank]; exact Bool.false_ne_true)]

/-- A path has no parent if it is empty or nothing but the root. Otherwise its parent has all its
components but the last. -/
theorem parent_cases (path : Path) :
    (path.parent = none ∧ (path.components = [] ∨ path.components = [.root])) ∨
      ∃ above last, path.parent = some above ∧ last ≠ .root ∧
        path.components = above.components ++ [last] := by
  obtain ⟨first, lead, segments, parts⟩ : ∃ first lead segments,
      anatomy path.text.toList = (first, lead, segments) := ⟨_, _, _, rfl⟩
  have backwards : segments.filterMap component? =
      ((segments.reverse.dropWhile isBlank).filterMap component?).reverse := by
    rw [filterMap_dropWhile_isBlank, List.filterMap_reverse, List.reverse_reverse]
  have shape := components_eq parts
  rw [backwards] at shape
  cases visible : segments.reverse.dropWhile isBlank with
  | nil =>
    -- Nothing but the root or a dot is left.
    rw [visible, List.filterMap_nil, List.reverse_nil, List.append_nil] at shape
    have parent : path.parent = if first = some .current then some ⟨""⟩ else none := by
      rw [Path.parent, parts]
      simp only [visible]
    have begins := anatomy_fst_cases path.text.toList
    rw [parts] at begins
    rcases begins with rfl | rfl | rfl
    · exact Or.inl ⟨parent, Or.inl shape⟩
    · exact Or.inl ⟨parent, Or.inr shape⟩
    · exact Or.inr ⟨⟨""⟩, .current, parent, nofun, shape⟩
  | cons last before =>
    obtain ⟨step, names, notRoot⟩ : ∃ step, component? last = some step ∧ step ≠ .root := by
      have first := List.head?_dropWhile_not isBlank segments.reverse
      rw [visible, List.head?_cons] at first
      exact exists_component? (by rw [first]; exact Bool.false_ne_true)
    have kept : (before.dropWhile isBlank).reverse <+: segments := by
      have suffix : before.dropWhile isBlank <:+ segments.reverse :=
        ((List.dropWhile_suffix _).trans (List.suffix_cons last before)).trans
          (visible ▸ List.dropWhile_suffix _)
      rw [← List.reverse_reverse segments]
      exact List.reverse_prefix.mpr suffix
    refine Or.inr ⟨⟨String.ofList (lead ++ Text.join '/' (before.dropWhile isBlank).reverse)⟩, step,
      ?_, notRoot, ?_⟩
    · rw [parent, parts]
      simp only [visible]
    · have read := anatomy_append_join parts kept
      rw [shape, visible, List.filterMap_cons_some names, List.reverse_cons, ← List.append_assoc,
        components, String.toList_ofList, read, ← filterMap_dropWhile_isBlank before,
        ← List.filterMap_reverse]
      refine congrArg (· ++ [step]) ?_
      dsimp only
      split
      · next nothing =>
        rw [nothing]
        rfl
      · rfl

theorem parent_eq_none_iff {path : Path} :
    path.parent = none ↔ path.components = [] ∨ path.components = [.root] := by
  rcases path.parent_cases with ⟨none, top⟩ | ⟨above, last, parent, notRoot, shape⟩
  · exact iff_of_true none top
  · rw [parent, shape]
    simp [List.append_eq_singleton_iff, notRoot]

/-- A path that goes on behind the root has a parent, which has all components but the last. -/
theorem exists_parent {path : Path} {front : List Component} {last : Component}
    (shape : path.components = front ++ [last]) (notRoot : last ≠ .root) :
    ∃ above, path.parent = some above ∧ above.components = front := by
  rcases path.parent_cases with ⟨_, top⟩ | ⟨above, step, parent, _, components⟩
  · rw [shape] at top
    simp [List.append_eq_singleton_iff, notRoot] at top
  · exact ⟨above, parent, (List.append_inj' (components.symm.trans shape) rfl).1⟩

/-- The root is only the first component of a path. -/
theorem ne_root_of_components {path : Path} {front : List Component} {last : Component}
    (shape : path.components = front ++ [last]) (behind : front ≠ []) : last ≠ .root := by
  rcases path.parent_cases with ⟨_, top⟩ | ⟨_, step, _, notRoot, components⟩
  · rw [shape] at top
    simp [List.append_eq_singleton_iff, behind] at top
  · obtain ⟨_, same⟩ := List.append_inj' (components.symm.trans shape) rfl
    exact (List.cons.inj same).1 ▸ notRoot

end CodeNavigator.Path
