/-
This file says what the output of the oracle means without saying in which order it is looked at.
Output describes a thing if it is an object with an object for its description. A description
selects at most one place to look for a position, by what it calls the thing. Output is malformed
when something on the way to that place is missing, or when a text there is no position. Members
that are not on the way are never looked at.

The reader agrees with this in every case. Each meaning is read as the result that belongs to it,
and every output has some meaning, so each result comes from exactly the outputs that mean it.
-/

import CodeNavigator.Definition.Finding
import Mathlib.Data.List.Basic

namespace CodeNavigator

namespace Finding

/-! ### The meaning of output -/

abbrev Members := List (String × Json.Value)

/-- The member of that name that counts is an object. -/
def HasObject (members : Members) (name : String) (inner : Members) : Prop :=
  Json.member? members name = some (.object inner)

/-- The member of that name that counts is a text. -/
def HasText (members : Members) (name text : String) : Prop :=
  Json.member? members name = some (.string text)

/-- The output is a document with this description. -/
def Describes (output : String) (description : Members) : Prop :=
  ∃ members, Json.parse output = .ok (.object members) ∧ HasObject members "describe" description

/-- Where a description has its place: the object and the member of it that holds the position. -/
inductive Selects (description : Members) : String → String → Prop
  | identifier (called : HasText description "desc" "identifier") :
      Selects description "value" "objpos"
  | type {name : String} (called : HasText description "desc" name)
      (notFile : name ≠ "source file") (notIdentifier : name ≠ "identifier")
      (type : HasText description "detail" "type")
      (elsewhere : ∀ rest, name ≠ "definition of " ++ rest) :
      Selects description "type" "namepos"

/-- The output has an object where its description has its place: the object and the name of the
member. -/
def Points (output : String) (inner : Members) (key : String) : Prop :=
  ∃ description holder, Describes output description ∧ Selects description holder key ∧
    HasObject description holder inner

/-- The output leads to a place. -/
def Locates (output : String) (place : SourceLocation) : Prop :=
  ∃ inner key position, Points output inner key ∧ HasText inner key position ∧
    SourceLocation.read position ":" = .ok place

/-- The output describes a source file. -/
def DescribesFile (output : String) : Prop :=
  ∃ description, Describes output description ∧ HasText description "desc" "source file"

/-- The output leads to no definition. This is why, and this is the text that is shown. -/
inductive Explains (output : String) : Explanation → String → Prop
  | notAvailable {inner : Members} {key : String} (points : Points output inner key)
      (missing : ∀ position, ¬ HasText inner key position) :
      Explains output .notAvailable "Definition not available."
  | alreadyAtDefinition {description : Members} {rest : String}
      (describes : Describes output description)
      (called : HasText description "desc" ("definition of " ++ rest))
      (type : HasText description "detail" "type") :
      Explains output (.alreadyAtDefinition rest) ("Already at a definition: " ++ rest)
  | notADefinition {description : Members} {name : String}
      (describes : Describes output description) (called : HasText description "desc" name)
      (notFile : name ≠ "source file") (notIdentifier : name ≠ "identifier")
      (notType : ¬ HasText description "detail" "type") :
      Explains output (.notADefinition name)
        ("Selected position does not refer to a definition. Rather, it's a:\n" ++ name)

/-- Something is missing from the output that has to be there, or a text is no position. -/
inductive Malformed (output : String) : Prop
  | noObject (missing : ∀ members, Json.parse output ≠ .ok (.object members))
  | noDescription {members : Members} (decoded : Json.parse output = .ok (.object members))
      (missing : ∀ description, ¬ HasObject members "describe" description)
  | noName {description : Members} (describes : Describes output description)
      (missing : ∀ name, ¬ HasText description "desc" name)
  | noHolder {description : Members} {holder key : String}
      (describes : Describes output description) (selects : Selects description holder key)
      (missing : ∀ inner, ¬ HasObject description holder inner)
  | noPosition {inner : Members} {key position : String} (points : Points output inner key)
      (text : HasText inner key position)
      (invalid : ∀ place, SourceLocation.read position ":" ≠ .ok place)

/-! ### Members and words -/

variable {members inner description : Members} {name text : String}

theorem objectMember_of_hasObject (has : HasObject members name inner) :
    objectMember members name = .ok inner := by
  unfold objectMember
  rw [has]
  rfl

theorem objectMember_of_missing (missing : ∀ inner, ¬ HasObject members name inner) :
    objectMember members name = .error (.missingObject name) := by
  unfold objectMember
  cases found : (Json.member? members name).bind Json.Value.asObject? with
  | none => rfl
  | some inner =>
    obtain ⟨value, has, object⟩ := Option.bind_eq_some_iff.mp found
    cases value <;> cases object
    exact absurd has (missing inner)

theorem stringMember?_eq_some_iff :
    stringMember? members name = some text ↔ HasText members name text := by
  unfold stringMember? HasText
  rw [Option.bind_eq_some_iff]
  constructor
  · rintro ⟨value, has, string⟩
    cases value <;> cases string
    exact has
  · exact fun has => ⟨_, has, rfl⟩

theorem stringMember?_eq_none (missing : ∀ text, ¬ HasText members name text) :
    stringMember? members name = none :=
  Option.eq_none_iff_forall_ne_some.mpr fun text has =>
    missing text (stringMember?_eq_some_iff.mp has)

theorem afterWords?_eq_some_iff {words rest : String} :
    afterWords? words text = some rest ↔ text = words ++ rest := by
  simp only [afterWords?, Option.map_eq_some_iff, List.isPrefixOf?_eq_some_iff_append_eq]
  constructor
  · rintro ⟨characters, cut, rfl⟩
    exact String.toList_inj.mp (by rw [← cut, String.toList_append, String.toList_ofList])
  · rintro rfl
    exact ⟨rest.toList, String.toList_append.symm, String.ofList_toList⟩

theorem afterWords?_eq_none {words : String} (elsewhere : ∀ rest, text ≠ words ++ rest) :
    afterWords? words text = none :=
  Option.eq_none_iff_forall_ne_some.mpr fun rest cut =>
    elsewhere rest (afterWords?_eq_some_iff.mp cut)

theorem definitionWords_append_ne (rest : String) :
    definitionWords ++ rest ≠ "source file" ∧ definitionWords ++ rest ≠ "identifier" := by
  constructor
  all_goals
    intro same
    have letters := congrArg String.toList same
    simp [definitionWords] at letters

/-! ### What a description is read as -/

variable {output holder key : String}

theorem ofText_of_describes (describes : Describes output description) :
    ofText output = (ofDescription description).mapError .malformedOutput := by
  obtain ⟨members, decoded, has⟩ := describes
  unfold ofText
  rw [decoded]
  simp only [ofDocument, objectMember_of_hasObject has]
  rfl

theorem ofDescription_of_selects (selects : Selects description holder key) :
    ofDescription description = (objectMember description holder).bind (ofPosition · key) := by
  unfold ofDescription
  cases selects with
  | identifier called =>
    rw [stringMember?_eq_some_iff.mpr called]
    rfl
  | type called notFile notIdentifier type elsewhere =>
    rw [stringMember?_eq_some_iff.mpr called]
    simp only [if_neg notFile, if_neg notIdentifier, if_pos (stringMember?_eq_some_iff.mpr type),
      definitionWords, afterWords?_eq_none elsewhere]
    rfl

theorem ofText_of_points (points : Points output inner key) :
    ofText output = (ofPosition inner key).mapError .malformedOutput := by
  obtain ⟨description, holder, describes, selects, has⟩ := points
  rw [ofText_of_describes describes, ofDescription_of_selects selects,
    objectMember_of_hasObject has]
  rfl

/-! ### Each meaning is read as its result -/

theorem ofText_of_describesFile (file : DescribesFile output) : ofText output = .ok .nowhere := by
  obtain ⟨description, describes, called⟩ := file
  rw [ofText_of_describes describes, ofDescription, stringMember?_eq_some_iff.mpr called]
  rfl

theorem ofText_of_locates {place : SourceLocation} (locates : Locates output place) :
    ofText output = .ok (.location place) := by
  obtain ⟨inner, key, position, points, text, valid⟩ := locates
  rw [ofText_of_points points, ofPosition, stringMember?_eq_some_iff.mpr text]
  simp only [valid]
  rfl

theorem ofText_of_explains {explanation : Explanation} {message : String}
    (explains : Explains output explanation message) :
    ofText output = .ok (.explained explanation) := by
  cases explains with
  | notAvailable points missing =>
    rw [ofText_of_points points, ofPosition, stringMember?_eq_none missing]
    rfl
  | @alreadyAtDefinition description rest describes called type =>
    obtain ⟨notFile, notIdentifier⟩ := definitionWords_append_ne rest
    have cut : afterWords? definitionWords (definitionWords ++ rest) = some rest :=
      afterWords?_eq_some_iff.mpr rfl
    rw [ofText_of_describes describes, ofDescription, stringMember?_eq_some_iff.mpr called,
      ← definitionWords]
    simp only [if_neg notFile, if_neg notIdentifier, if_pos (stringMember?_eq_some_iff.mpr type),
      cut]
    rfl
  | notADefinition describes called notFile notIdentifier notType =>
    rw [ofText_of_describes describes, ofDescription, stringMember?_eq_some_iff.mpr called]
    simp only [if_neg notFile, if_neg notIdentifier,
      if_neg (mt stringMember?_eq_some_iff.mp notType)]
    rfl

/-- The text is the one that belongs to the explanation. -/
theorem Explains.message_eq {explanation : Explanation} {message : String}
    (explains : Explains output explanation message) : explanation.message = message := by
  cases explains <;> rfl

theorem ofText_of_malformed (malformed : Malformed output) :
    ∃ reason, ofText output = .error (.malformedOutput reason) := by
  cases malformed with
  | noObject missing =>
    unfold ofText
    cases decoded : Json.parse output with
    | error error => exact ⟨_, rfl⟩
    | ok document =>
      cases document with
      | object members => exact absurd decoded (missing members)
      | _ => exact ⟨_, rfl⟩
  | noDescription decoded missing =>
    unfold ofText
    rw [decoded]
    simp only [ofDocument, objectMember_of_missing missing]
    exact ⟨_, rfl⟩
  | noName describes missing =>
    rw [ofText_of_describes describes, ofDescription, stringMember?_eq_none missing]
    exact ⟨_, rfl⟩
  | noHolder describes selects missing =>
    rw [ofText_of_describes describes, ofDescription_of_selects selects,
      objectMember_of_missing missing]
    exact ⟨_, rfl⟩
  | @noPosition inner key position points text invalid =>
    rw [ofText_of_points points, ofPosition, stringMember?_eq_some_iff.mpr text]
    cases read : SourceLocation.read position ":" with
    | ok place => exact absurd read (invalid place)
    | error error =>
      simp only [read]
      exact ⟨_, rfl⟩

/-! ### All output has a meaning -/

theorem points_cases (points : Points output inner key) :
    Malformed output ∨ (∃ place, Locates output place) ∨
      ∃ explanation message, Explains output explanation message := by
  by_cases text : ∃ position, HasText inner key position
  · obtain ⟨position, text⟩ := text
    by_cases valid : ∃ place, SourceLocation.read position ":" = .ok place
    · obtain ⟨place, valid⟩ := valid
      exact Or.inr (Or.inl ⟨place, inner, key, position, points, text, valid⟩)
    · exact Or.inl (.noPosition points text (not_exists.mp valid))
  · exact Or.inr (Or.inr ⟨_, _, .notAvailable points (not_exists.mp text)⟩)

theorem selects_cases (describes : Describes output description)
    (selects : Selects description holder key) :
    Malformed output ∨ (∃ place, Locates output place) ∨
      ∃ explanation message, Explains output explanation message := by
  by_cases has : ∃ inner, HasObject description holder inner
  · obtain ⟨inner, has⟩ := has
    exact points_cases ⟨description, holder, describes, selects, has⟩
  · exact Or.inl (.noHolder describes selects (not_exists.mp has))

/-- What a description means depends first on the name of the thing. -/
theorem describes_cases (describes : Describes output description) :
    Malformed output ∨ DescribesFile output ∨ (∃ place, Locates output place) ∨
      ∃ explanation message, Explains output explanation message := by
  by_cases called : ∃ name, HasText description "desc" name
  · obtain ⟨name, called⟩ := called
    by_cases file : name = "source file"
    · exact Or.inr (Or.inl ⟨description, describes, file ▸ called⟩)
    by_cases identifier : name = "identifier"
    · have selects := Selects.identifier (identifier ▸ called)
      exact (selects_cases describes selects).imp_right Or.inr
    by_cases type : HasText description "detail" "type"
    · by_cases definition : ∃ rest, name = "definition of " ++ rest
      · obtain ⟨rest, rfl⟩ := definition
        exact Or.inr (Or.inr (Or.inr ⟨_, _, .alreadyAtDefinition describes called type⟩))
      · have selects := Selects.type called file identifier type (not_exists.mp definition)
        exact (selects_cases describes selects).imp_right Or.inr
    · exact Or.inr (Or.inr (Or.inr ⟨_, _, .notADefinition describes called file identifier type⟩))
  · exact Or.inl (.noName describes (not_exists.mp called))

theorem output_cases (output : String) :
    Malformed output ∨ DescribesFile output ∨ (∃ place, Locates output place) ∨
      ∃ explanation message, Explains output explanation message := by
  by_cases decoded : ∃ members, Json.parse output = .ok (.object members)
  · obtain ⟨members, decoded⟩ := decoded
    by_cases described : ∃ description, HasObject members "describe" description
    · obtain ⟨description, has⟩ := described
      exact describes_cases ⟨members, decoded, has⟩
    · exact Or.inl (.noDescription decoded (not_exists.mp described))
  · exact Or.inl (.noObject (not_exists.mp decoded))

/-! ### Classification -/

/-- The meaning that belongs to a result. -/
def Means (output : String) : Except OracleError Finding → Prop
  | .error (.failedCall _) => False
  | .error (.malformedOutput _) => Malformed output
  | .ok .nowhere => DescribesFile output
  | .ok (.location place) => Locates output place
  | .ok (.explained explanation) => Explains output explanation explanation.message

theorem means_ofText (output : String) : Means output (ofText output) := by
  rcases output_cases output with malformed | file | ⟨place, locates⟩ | ⟨_, _, explains⟩
  · obtain ⟨reason, refused⟩ := ofText_of_malformed malformed
    rw [refused]
    exact malformed
  · rw [ofText_of_describesFile file]
    exact file
  · rw [ofText_of_locates locates]
    exact locates
  · rw [ofText_of_explains explains, Means, explains.message_eq]
    exact explains

theorem means_of_ofText {output : String} {result : Except OracleError Finding}
    (read : ofText output = result) : Means output result :=
  read ▸ means_ofText output

/-- What a finished call leads to is decided as follows, and in no other way. A call that failed
gives its exit code, whatever its output. If it ended well, its output is refused as malformed
exactly when it is malformed, leads nowhere exactly when it describes a source file, and leads to a
place exactly when it points to a position of that place. All other output is explained by what its
description says, and the text that is shown for it is the text of this explanation. -/
theorem ofOutput_classified (output : String) (exitCode : Int32) :
    (∀ code, ofOutput output exitCode = .error (.failedCall code) ↔
      exitCode ≠ 0 ∧ code = exitCode) ∧
    ((∃ reason, ofOutput output exitCode = .error (.malformedOutput reason)) ↔
      exitCode = 0 ∧ Malformed output) ∧
    (ofOutput output exitCode = .ok .nowhere ↔ exitCode = 0 ∧ DescribesFile output) ∧
    (∀ place, ofOutput output exitCode = .ok (.location place) ↔
      exitCode = 0 ∧ Locates output place) ∧
    ∀ explanation message, ofOutput output exitCode = .ok (.explained explanation) ∧
        explanation.message = message ↔
      exitCode = 0 ∧ Explains output explanation message := by
  by_cases ended : exitCode = 0
  · have same : ofOutput output exitCode = ofText output := if_pos ended
    rw [same]
    refine ⟨fun code => ⟨fun read => (means_of_ofText read).elim, ?_⟩,
      ⟨fun ⟨_, read⟩ => ⟨ended, means_of_ofText read⟩, fun has => ofText_of_malformed has.2⟩,
      ⟨fun read => ⟨ended, means_of_ofText read⟩, fun has => ofText_of_describesFile has.2⟩,
      fun place => ⟨fun read => ⟨ended, means_of_ofText read⟩, fun has => ofText_of_locates has.2⟩,
      fun explanation message => ⟨fun ⟨read, shown⟩ => ⟨ended, shown ▸ means_of_ofText read⟩,
        fun has => ⟨ofText_of_explains has.2, has.2.message_eq⟩⟩⟩
    exact fun failed => absurd ended failed.1
  · have same : ofOutput output exitCode = .error (.failedCall exitCode) := if_neg ended
    rw [same]
    refine ⟨fun code => ⟨fun failed => ?_, fun failed => failed.2 ▸ rfl⟩,
      ⟨nofun, fun has => absurd has.1 ended⟩, ⟨nofun, fun has => absurd has.1 ended⟩,
      fun _ => ⟨nofun, fun has => absurd has.1 ended⟩,
      fun _ _ => ⟨nofun, fun has => absurd has.1 ended⟩⟩
    cases failed
    exact ⟨ended, rfl⟩

/-- Output is explained in three ways: it stands at a definition, it has no position at the place for
one, and it is about something that is not defined anywhere. -/
theorem ofOutput_classified_of_explained :
    let definition :=
      "\x7b\"describe\": \x7b\"desc\": \"definition of main\", \"detail\": \"type\"\x7d\x7d"
    let unavailable :=
      "\x7b\"describe\": \x7b\"desc\": \"identifier\", \"value\": \x7b\"objpos\": 12\x7d\x7d\x7d"
    let operation :=
      "\x7b\"describe\": \x7b\"desc\": \"binary + operation\"\x7d\x7d"
    ofOutput definition 0 = .ok (.explained (.alreadyAtDefinition "main")) ∧
    Explains definition (.alreadyAtDefinition "main") "Already at a definition: main" ∧
    ofOutput unavailable 0 = .ok (.explained .notAvailable) ∧
    Explains unavailable .notAvailable "Definition not available." ∧
    ofOutput operation 0 = .ok (.explained (.notADefinition "binary + operation")) ∧
    Explains operation (.notADefinition "binary + operation")
      "Selected position does not refer to a definition. Rather, it's a:\nbinary + operation" := by
  intro definition unavailable operation
  have explains (output : String) := (ofOutput_classified output 0).2.2.2.2
  have definitionRead : ofOutput definition 0 = .ok (.explained (.alreadyAtDefinition "main")) := by
    decide +kernel
  have unavailableRead : ofOutput unavailable 0 = .ok (.explained .notAvailable) := by
    decide +kernel
  have operationRead :
      ofOutput operation 0 = .ok (.explained (.notADefinition "binary + operation")) := by
    decide +kernel
  exact ⟨definitionRead, ((explains _ _ _).mp ⟨definitionRead, by decide⟩).2,
    unavailableRead, ((explains _ _ _).mp ⟨unavailableRead, rfl⟩).2,
    operationRead, ((explains _ _ _).mp ⟨operationRead, by decide⟩).2⟩

end Finding

end CodeNavigator
