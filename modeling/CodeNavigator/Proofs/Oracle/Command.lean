/-
This file proves that the command line of the oracle says without ambiguity what it was made for. The
position is one argument in which the file may hold the very delimiter that is followed by the offset.
An offset is written in digits alone, so the last delimiter is always the right one to cut at.

The packages follow as they were given. Without any, there is one in their place, the directory of the
file. It is never the empty text, and joined with the name of the file it is the file again, except
that a dot stands before a name that had no directory.
-/

import CodeNavigator.Proofs.Engine.SavedOutput
import CodeNavigator.Proofs.Path.Components
import CodeNavigator.Proofs.Text.Decimal

namespace CodeNavigator

variable {file : Path} {name : String}

/-! ### The position -/

namespace Command

/-- The file and the offset that the first argument names, cut at the last delimiter in it. -/
def position? (command : Command) : Option (Path × UInt64) := do
  let argument ← command.arguments.head?
  let (before, digits) ← Text.cutLast [':', '#'] argument.toList
  let file ← ['-', 'p', 'o', 's', '='].isPrefixOf? before
  let offset ← Text.readDigits digits
  some (⟨String.ofList file⟩, UInt64.ofNat offset)

/-- Digits do not hold the delimiter, so what stands before the last one is the whole file. -/
theorem cutLast_position (file : List Char) (offset : Nat) :
    Text.cutLast [':', '#'] (file ++ [':', '#'] ++ Nat.toDigits 10 offset) =
      some (file, Nat.toDigits 10 offset) := by
  refine Text.cutLast_append (List.cons_ne_nil _ _) fun character delimits member => ?_
  have digit := (Text.isNumeral_toDigits offset).2 character member
  rcases List.mem_pair.mp delimits with rfl | rfl <;> cases digit

theorem position?_describe (oracle : Path) (gopath : Option String) (file : Path) (offset : UInt64)
    (scope : List String) :
    (describe oracle gopath file offset scope).position? = some (file, offset) := by
  have argument : ("-pos=" ++ file.text ++ ":#" ++ toString offset.toNat).toList =
      ['-', 'p', 'o', 's', '='] ++ file.text.toList ++ [':', '#'] ++
        Nat.toDigits 10 offset.toNat := by
    simp only [String.toList_append, Nat.toString_eq_repr, Nat.toList_repr]
    rfl
  have prefixed : ['-', 'p', 'o', 's', '='].isPrefixOf?
      (['-', 'p', 'o', 's', '='] ++ file.text.toList) = some file.text.toList :=
    List.isPrefixOf?_eq_some_iff_append_eq.mpr rfl
  have digits : Text.readDigits (Nat.toDigits 10 offset.toNat) = some offset.toNat :=
    Text.readDigits_eq_some_iff.mpr
      ⟨Text.isNumeral_toDigits _, Text.digitsValue_toDigits _⟩
  rw [position?, describe, List.cons_append, List.head?_cons, Option.bind_eq_bind, Option.bind_some,
    argument, cutLast_position]
  simp only [Option.bind_eq_bind, Option.bind_some, prefixed, digits, String.ofList_toList,
    UInt64.ofNat_toNat]

end Command

/-! ### The packages -/

/-- The packages that the oracle looks at: those that are given, or else the directory of the file. -/
def effectiveScope (file : Path) (scope : List String) : List String :=
  if scope.isEmpty then [packageDirectory file] else scope

theorem Command.drop_arguments_describe (oracle : Path) (gopath : Option String) (file : Path)
    (offset : UInt64) (scope : List String) :
    (describe oracle gopath file offset scope).arguments.drop 3 = effectiveScope file scope := rfl

theorem packageDirectory_ne_empty (file : Path) : packageDirectory file ≠ "" := by
  unfold packageDirectory
  split
  · split
    · decide
    · assumption
  · decide

/-- A file that ends in a name is found again below its directory, up to a dot at the front. -/
theorem components_join_packageDirectory (called : file.fileName = some name) :
    let found : Path := Path.join ⟨packageDirectory file⟩ ⟨name⟩
    found.components = file.components ∨
      file.components = [.normal name] ∧ found.components = [.current, .normal name] := by
  intro found
  obtain ⟨front, shape⟩ := Path.exists_components_of_fileName called
  have plain : (⟨name⟩ : Path).components = [.normal name] :=
    Path.components_of_mem (by rw [shape]; exact List.mem_concat_self)
  obtain ⟨above, parent, components⟩ := Path.exists_parent shape nofun
  have joined : found.components = _ := Path.components_join ⟨packageDirectory file⟩ plain
  by_cases bare : above.text = ""
  · refine Or.inr ⟨?_, ?_⟩
    · rw [shape, ← components, Path.components_eq_nil_iff.mpr bare, List.nil_append]
    · have directory : packageDirectory file = "." := by
        rw [packageDirectory, parent]
        exact if_pos bare
      rw [joined, directory]
      rfl
  · have directory : packageDirectory file = above.text := by
      rw [packageDirectory, parent]
      exact if_neg bare
    refine Or.inl ?_
    rw [joined, directory, shape, ← components]

/-! ### The file of a request -/

theorem Settings.command_eq (settings : Settings) (request : DefinitionRequest) :
    settings.command request = .describe settings.oracle settings.gopath
      (if (⟨request.file⟩ : Path).isAbsolute then ⟨request.file⟩
        else settings.workspaceRoot.join ⟨request.file⟩)
      request.offset request.scope := by
  rw [command, resolve, Path.join]
  split <;> rfl

/-- The place of the workspace does not matter to an absolute file. -/
theorem Settings.command_of_absolute {request : DefinitionRequest}
    (absolute : (⟨request.file⟩ : Path).isAbsolute = true) (settings : Settings) (root : Path) :
    { settings with workspaceRoot := root }.command request = settings.command request := by
  rw [command_eq, command_eq, if_pos absolute, if_pos absolute]

theorem Engine.commands_eq (engine : Engine) (request : DefinitionRequest) :
    (engine.findWithCommands request).2 = [engine.settings.command request] :=
  congrArg Prod.snd (engine.findWithCommands_eq request)

/-! ### Commands and requests -/

/-- Equal commands were made for the same file, the same offset and the same packages.

The file and the offset are found in the first argument by its last delimiter. Packages that are given
follow the three fixed arguments as they are, and without any the directory of the file does. A request
runs the command of its own file if that is absolute, and else of the file below the workspace. -/
theorem oracle_command_unambiguous (oracle : Path) (gopath : Option String) (file : Path)
    (offset : UInt64) (scope : List String) :
    let command := Command.describe oracle gopath file offset scope
    let fixed := ["-pos=" ++ file.text ++ ":#" ++ toString offset.toNat, "-format=json", "describe"]
    command.position? = some (file, offset) ∧
    (∀ otherOracle otherGopath otherFile otherOffset otherScope,
      command = .describe otherOracle otherGopath otherFile otherOffset otherScope →
        otherFile = file ∧ otherOffset = offset ∧
          effectiveScope otherFile otherScope = effectiveScope file scope) ∧
    command.arguments = fixed ++ effectiveScope file scope ∧
    (scope ≠ [] → effectiveScope file scope = scope) ∧
    (scope = [] → ∃ directory, effectiveScope file scope = [directory] ∧ directory ≠ "" ∧
      ∀ name, file.fileName = some name →
        let found : Path := Path.join ⟨directory⟩ ⟨name⟩
        found.components = file.components ∨
          file.components = [.normal name] ∧ found.components = [.current, .normal name]) ∧
    ∀ (engine : Engine) (request : DefinitionRequest),
      (engine.findWithCommands request).2 =
        [.describe engine.settings.oracle engine.settings.gopath
          (if (⟨request.file⟩ : Path).isAbsolute then ⟨request.file⟩
            else engine.settings.workspaceRoot.join ⟨request.file⟩)
          request.offset request.scope] ∧
      ((⟨request.file⟩ : Path).isAbsolute = true → ∀ root,
        let moved : Engine := { engine with settings := { engine.settings with workspaceRoot := root } }
        (moved.findWithCommands request).2 = (engine.findWithCommands request).2) := by
  intro command fixed
  have position : command.position? = some (file, offset) := Command.position?_describe ..
  refine ⟨position, ?_, rfl, fun given => ?_, fun none => ?_, fun engine request => ?_⟩
  · intro otherOracle otherGopath otherFile otherOffset otherScope same
    have otherPosition := Command.position?_describe otherOracle otherGopath otherFile otherOffset
      otherScope
    rw [← same, position] at otherPosition
    cases otherPosition
    refine ⟨rfl, rfl, ?_⟩
    rw [← Command.drop_arguments_describe otherOracle otherGopath, ← same,
      Command.drop_arguments_describe]
  · exact if_neg (by rwa [List.isEmpty_iff])
  · subst none
    exact ⟨packageDirectory file, rfl, packageDirectory_ne_empty file,
      fun name => components_join_packageDirectory⟩
  · refine ⟨?_, fun absolute root => ?_⟩
    · rw [Engine.commands_eq, Settings.command_eq]
    · intro moved
      have same : moved.settings.command request = engine.settings.command request :=
        Settings.command_of_absolute absolute engine.settings root
      rw [Engine.commands_eq, Engine.commands_eq, same]

/-- A file whose name and directory hold the delimiter gives one command without packages and with its
own directory. An absolute file is asked for in two workspaces. -/
theorem oracle_command_unambiguous_with_delimiters :
    let file : Path := ⟨"a:#1//b:#2.go"⟩
    let command := Command.describe ⟨"oracle"⟩ (some "/go") file 30 []
    let engine (root : Path) : Engine := ⟨⟨⟨"oracle"⟩, none, root, 500⟩, fun _ => .broken,
      ⟨.ok [], fun _ => false, fun _ _ => .ok [], fun _ => .ok [], fun _ => []⟩⟩
    let request : DefinitionRequest := ⟨"/s/b:#2.go", 7, ["x", "y"]⟩
    command.position? = some (file, 30) ∧
    command = .describe ⟨"oracle"⟩ (some "/go") file 30 ["a:#1"] ∧
    effectiveScope file ["a:#1"] = effectiveScope file [] ∧
    file.fileName = some "b:#2.go" ∧
    (∃ directory, effectiveScope file [] = [directory] ∧ directory ≠ "" ∧
      (Path.join ⟨directory⟩ ⟨"b:#2.go"⟩).components = file.components) ∧
    effectiveScope ⟨request.file⟩ request.scope = request.scope ∧
    ((engine ⟨"/w"⟩).findWithCommands request).2 = ((engine ⟨"."⟩).findWithCommands request).2 := by
  intro file command engine request
  have same : command = .describe ⟨"oracle"⟩ (some "/go") file 30 ["a:#1"] := by decide
  have called : file.fileName = some "b:#2.go" := by decide
  obtain ⟨position, apart, _, _, standard, _⟩ :=
    oracle_command_unambiguous ⟨"oracle"⟩ (some "/go") file 30 []
  obtain ⟨_, _, _, given, _, run⟩ :=
    oracle_command_unambiguous ⟨"oracle"⟩ none ⟨request.file⟩ request.offset request.scope
  obtain ⟨directory, only, visible, found⟩ := standard rfl
  refine ⟨position, same, (apart _ _ _ _ _ same).2.2, called, ⟨directory, only, visible, ?_⟩,
    given (by decide), (run (engine ⟨"."⟩) request).2 (by decide) ⟨"/w"⟩⟩
  rcases found _ called with again | ⟨bare, _⟩
  · exact again
  · exact absurd bare (by decide)

end CodeNavigator
