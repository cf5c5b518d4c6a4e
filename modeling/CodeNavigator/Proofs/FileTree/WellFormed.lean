/-
This file says which trees can be those of a disk: the names in each directory are all different, and
each of them can be the name of a file. Whatever is found in such a tree is such a tree again, and an
entry of a directory is found by its name.
-/

import CodeNavigator.FileTree.Access
import CodeNavigator.Proofs.Path.Components
import Mathlib.Data.List.Nodup

namespace CodeNavigator.FileTree

/-! ### Names -/

/-- A name that a file can have: a single step of a path. -/
structure IsName (name : String) : Prop where
  visible : Path.isBlank name.toList = false
  notParent : name ≠ ".."
  noSlash : '/' ∉ name.toList
  noNul : '\x00' ∉ name.toList

instance (name : String) : Decidable (IsName name) :=
  decidable_of_iff (Path.isBlank name.toList = false ∧ name ≠ ".." ∧ '/' ∉ name.toList ∧
      '\x00' ∉ name.toList)
    ⟨fun ⟨visible, notParent, noSlash, noNul⟩ => ⟨visible, notParent, noSlash, noNul⟩,
      fun isName => ⟨isName.visible, isName.notParent, isName.noSlash, isName.noNul⟩⟩

variable {name : String}

theorem IsName.ne_parent (isName : IsName name) : name.toList ≠ ['.', '.'] := fun same =>
  isName.notParent (String.toList_inj.mp same)

theorem IsName.split_eq (isName : IsName name) : Text.split '/' name.toList = [name.toList] :=
  Text.split_of_not_mem isName.noSlash

theorem IsName.ne_nil (isName : IsName name) : name.toList ≠ [] := by
  intro empty
  have visible := isName.visible
  rw [empty] at visible
  cases visible

theorem IsName.ne_current (isName : IsName name) : name.toList ≠ ['.'] := by
  intro dot
  have visible := isName.visible
  rw [dot] at visible
  cases visible

/-- As a path, a name is a single step. -/
theorem IsName.components_eq (isName : IsName name) :
    (⟨name⟩ : Path).components = [.normal name] := by
  have step : Path.component? name.toList = some (.normal name) := by
    rw [Path.component?, if_neg (by rw [isName.visible]; exact Bool.false_ne_true),
      if_neg isName.ne_parent, String.ofList_toList]
  rw [← Path.components_of_segment isName.noSlash step, String.ofList_toList]

/-! ### Trees -/

mutual

/-- The names in each directory are names of files, and different ones. -/
def IsWellFormed : FileTree → Prop
  | .directory _ entries => (entries.map Prod.fst).Nodup ∧ AreWellFormed entries
  | _ => True

def AreWellFormed : List (String × FileTree) → Prop
  | [] => True
  | (name, tree) :: rest => IsName name ∧ tree.IsWellFormed ∧ AreWellFormed rest

end

variable {tree found : FileTree} {mode : Mode} {entries : List (String × FileTree)}

theorem AreWellFormed.of_mem (areWellFormed : AreWellFormed entries)
    (member : (name, found) ∈ entries) : IsName name ∧ found.IsWellFormed := by
  induction entries with
  | nil => cases member
  | cons entry rest inductionHypothesis =>
    obtain ⟨isName, isWellFormed, areWellFormed⟩ := areWellFormed
    rcases List.mem_cons.mp member with rfl | member
    · exact ⟨isName, isWellFormed⟩
    · exact inductionHypothesis areWellFormed member

theorem IsWellFormed.of_mem (isWellFormed : (directory mode entries).IsWellFormed)
    (member : (name, found) ∈ entries) : IsName name ∧ found.IsWellFormed :=
  AreWellFormed.of_mem isWellFormed.2 member

theorem name_eq_of_find? {entry : String × FileTree}
    (first : entries.find? (fun entry => entry.1 = name) = some entry) : entry.1 = name := by
  have same := List.find?_some first
  exact of_decide_eq_true same

theorem mem_of_child? (is : (directory mode entries).child? name = some found) :
    (name, found) ∈ entries := by
  obtain ⟨entry, first, rfl⟩ := Option.map_eq_some_iff.mp is
  rw [← name_eq_of_find? first]
  exact List.mem_of_find?_eq_some first

/-- An entry of a directory is found by its name. -/
theorem IsWellFormed.child?_eq_some_iff (isWellFormed : (directory mode entries).IsWellFormed) :
    (directory mode entries).child? name = some found ↔ (name, found) ∈ entries := by
  refine ⟨mem_of_child?, fun member => ?_⟩
  cases first : entries.find? fun entry => entry.1 = name with
  | none =>
    have missing := List.find?_eq_none.mp first _ member
    simp at missing
  | some entry =>
    have same : entry = (name, found) :=
      List.inj_on_of_nodup_map isWellFormed.1 (List.mem_of_find?_eq_some first) member
        (name_eq_of_find? first)
    rw [child?, first, same]
    rfl

/-- What holds of a directory when it holds of all its entries, and holds of all else, holds of every
tree. -/
theorem induction_entries {motive : FileTree → Prop}
    (directory : ∀ mode entries, (∀ name found, (name, found) ∈ entries → motive found) →
      motive (.directory mode entries))
    (other : ∀ found : FileTree, found.isDirectory = false → motive found) (tree : FileTree) :
    motive tree :=
  match tree with
  | .directory mode entries =>
    directory mode entries fun _ found _ => induction_entries directory other found
  | .file _ _ => other _ rfl
  | .link _ => other _ rfl
  | .device _ => other _ rfl
termination_by tree
decreasing_by
  have smaller := List.sizeOf_lt_of_mem ‹(_, found) ∈ entries›
  simp only [Prod.mk.sizeOf_spec, FileTree.directory.sizeOf_spec] at smaller ⊢
  omega

/-! ### Places -/

theorem at?_append (front names : List String) (tree : FileTree) :
    tree.at? (front ++ names) = (tree.at? front).bind (at? names) := by
  induction front generalizing tree with
  | nil => rfl
  | cons name front inductionHypothesis =>
    rw [List.cons_append, at?, at?, Option.bind_assoc]
    exact congrArg _ (funext inductionHypothesis)

theorem look_cons (tree : FileTree) (name : String) (place : Place) :
    tree.look (name :: place) = (tree.look place).bind (child? name) := by
  rw [look, look, List.reverse_cons, at?_append]
  exact congrArg _ (funext fun found => Option.bind_fun_some (child? name found))

theorem IsWellFormed.at? {names : List String} (isWellFormed : tree.IsWellFormed)
    (is : tree.at? names = some found) : found.IsWellFormed := by
  induction names generalizing tree with
  | nil => exact Option.some.inj is ▸ isWellFormed
  | cons name names inductionHypothesis =>
    obtain ⟨below, is, deeper⟩ := Option.bind_eq_some_iff.mp is
    cases tree with
    | directory mode entries =>
      exact inductionHypothesis (isWellFormed.of_mem (mem_of_child? is)).2 deeper
    | _ => cases is

theorem IsWellFormed.look {place : Place} (isWellFormed : tree.IsWellFormed)
    (is : tree.look place = some found) : found.IsWellFormed :=
  isWellFormed.at? is

/-! ### Directories that can be read -/

variable {start : Place} {path : Path}

/-- The entries that are read are those of the directory to which the path leads. -/
theorem readDirectory_eq_ok_iff :
    tree.readDirectory start path = .ok entries ↔ ∃ place mode,
      tree.locate start path = .ok place ∧ tree.look place = some (.directory mode entries) ∧
        mode.mayRead = true := by
  constructor
  · intro read
    cases located : tree.locate start path with
    | error error =>
      rw [readDirectory, resolve, located] at read
      cases read
    | ok place =>
      cases is : tree.look place with
      | none =>
        simp [readDirectory, resolve, located, Except.bind, found, is] at read
      | some here =>
        simp only [readDirectory, resolve, located, Except.bind, FileTree.found, is] at read
        cases here with
        | directory mode inside =>
          simp only at read
          split at read
          · next mayRead =>
            cases read
            exact ⟨place, mode, rfl, is, mayRead⟩
          · cases read
        | _ => cases read
  · rintro ⟨place, mode, located, is, mayRead⟩
    simp only [readDirectory, resolve, located, Except.bind, FileTree.found, is, if_pos mayRead]

theorem exists_look_of_readDirectory (read : tree.readDirectory start path = .ok entries) :
    ∃ place mode, tree.locate start path = .ok place ∧
      tree.look place = some (.directory mode entries) := by
  obtain ⟨place, mode, located, is, _⟩ := readDirectory_eq_ok_iff.mp read
  exact ⟨place, mode, located, is⟩

/-- What is read is well-formed, whatever the mode of the directory. -/
theorem IsWellFormed.readDirectory (isWellFormed : tree.IsWellFormed)
    (read : tree.readDirectory start path = .ok entries) (mode : Mode) :
    (directory mode entries).IsWellFormed := by
  obtain ⟨place, _, _, is⟩ := exists_look_of_readDirectory read
  have whole := isWellFormed.look is
  exact ⟨whole.1, whole.2⟩

end CodeNavigator.FileTree
