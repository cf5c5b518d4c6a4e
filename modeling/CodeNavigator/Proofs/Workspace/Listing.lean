/-
This file says what a listing of a directory on disk holds: one entry for each name in the directory
that is not hidden, and nothing else. An entry is a directory exactly if the name stands for one in
the tree, so a symbolic link never is.
-/

import CodeNavigator.Navigator.Workspace
import CodeNavigator.Proofs.FileTree.WellFormed

namespace CodeNavigator.Workspace

variable {tree : FileTree} {start : FileTree.Place} {directory : Path} {mode : Mode}
  {entries : List (String × FileTree)} {listed : Listed} {name : String} {found : FileTree}

theorem perm_arrange (entries : List (String × FileTree)) :
    (arrange entries).Perm ((entries.filter fun entry => !isHidden entry.1).map fun entry =>
      (⟨entry.1, entry.2.isDirectory⟩ : Listed)) :=
  List.mergeSort_perm _ _

theorem mem_arrange_iff :
    listed ∈ arrange entries ↔ ∃ entry ∈ entries, isHidden entry.1 = false ∧
      listed = ⟨entry.1, entry.2.isDirectory⟩ := by
  rw [(perm_arrange entries).mem_iff, List.mem_map]
  constructor
  · rintro ⟨entry, member, rfl⟩
    obtain ⟨member, shown⟩ := List.mem_filter.mp member
    exact ⟨entry, member, by simpa using shown, rfl⟩
  · rintro ⟨entry, member, shown, rfl⟩
    exact ⟨entry, List.mem_filter.mpr ⟨member, by rw [shown]; rfl⟩, rfl⟩

theorem isName_of_mem_arrange (isWellFormed : (FileTree.directory mode entries).IsWellFormed)
    (member : listed ∈ arrange entries) : FileTree.IsName listed.name := by
  obtain ⟨entry, inside, _, rfl⟩ := mem_arrange_iff.mp member
  exact (isWellFormed.of_mem inside).1

/-- Under one name stands what the directory has there, if the name is shown. -/
theorem perm_filter_arrange (entries : List (String × FileTree)) (name : String) :
    ((arrange entries).filter fun listed => listed.name = name).Perm
      (((entries.filter fun entry => entry.1 = name).filter fun entry => !isHidden entry.1).map
        fun entry => ⟨entry.1, entry.2.isDirectory⟩) := by
  refine ((perm_arrange entries).filter _).trans (List.Perm.of_eq ?_)
  rw [List.filter_map, List.filter_filter, List.filter_filter]
  exact congrArg _ (List.filter_congr fun entry _ => Bool.and_comm _ _)

/-- A name that is shown is listed once. -/
theorem filter_arrange_of_mem (distinct : (entries.map Prod.fst).Nodup)
    (member : (name, found) ∈ entries) (shown : isHidden name = false) :
    ((arrange entries).filter fun listed => listed.name = name) = [⟨name, found.isDirectory⟩] := by
  have single : (entries.filter fun entry => entry.1 = name) = [(name, found)] := by
    refine List.perm_singleton.mp ((List.perm_ext_iff_of_nodup ((distinct.of_map _).filter _)
      (List.nodup_singleton _)).mpr fun entry => ?_)
    rw [List.mem_filter, List.mem_singleton]
    constructor
    · rintro ⟨inside, called⟩
      exact List.inj_on_of_nodup_map distinct inside member (of_decide_eq_true called)
    · rintro rfl
      exact ⟨member, decide_eq_true rfl⟩
  have listed := perm_filter_arrange entries name
  rw [single, List.filter_cons_of_pos (by rw [shown]; rfl)] at listed
  exact List.perm_singleton.mp listed

/-- A name that is hidden, or missing in the directory, is not listed. -/
theorem filter_arrange_of_missing
    (missing : ∀ found, (name, found) ∈ entries → isHidden name = true) :
    ((arrange entries).filter fun listed => listed.name = name) = [] := by
  refine List.filter_eq_nil_iff.mpr fun listed member called => ?_
  obtain ⟨⟨name, found⟩, inside, shown, rfl⟩ := mem_arrange_iff.mp member
  obtain rfl := of_decide_eq_true called
  have hidden := missing found inside
  rw [shown] at hidden
  cases hidden

/-- A listing of a directory that can be read shows its entries below the path that was asked for. -/
theorem list_of_readDirectory (read : tree.readDirectory start directory = .ok entries) :
    list tree start directory = .ok ((arrange entries).map fun listed =>
      (listed.name, ⟨directory.join ⟨listed.name⟩, listed.isDirectory⟩)) := by
  rw [list, read]

/-- The directories of a listing are those of the arrangement. -/
theorem directories_map (directory : Path) (shown : List Listed) :
    directories (shown.map fun listed =>
        (listed.name, ⟨directory.join ⟨listed.name⟩, listed.isDirectory⟩)) =
      (shown.filter Listed.isDirectory).map fun listed =>
        (listed.name, directory.join ⟨listed.name⟩) := by
  induction shown with
  | nil => rfl
  | cons listed rest inductionHypothesis =>
    cases isDirectory : listed.isDirectory <;>
      simpa [directories, isDirectory] using inductionHypothesis

theorem exists_readDirectory_of_list {listing : List (String × Entry)}
    (shown : list tree start directory = .ok listing) :
    ∃ entries, tree.readDirectory start directory = .ok entries := by
  unfold list at shown
  split at shown
  · next entries read => exact ⟨entries, read⟩
  · cases shown

end CodeNavigator.Workspace
