/-
This file says what a form makes of a written value. A form comes to a value or to a fault, and to
which of them depends neither on the blanks before the value nor on what follows it. So what is
known of the parts of a list or an object gives what the form makes of the whole.

An object is read into a draft, and each of its members is a step from one draft to the next. A
member of a known name fills its field and fails where the field is filled already; a member of any
other name leaves the draft as it is. What a record makes of an object is what these steps come to,
one after another.
-/

import CodeNavigator.Json.Form
import CodeNavigator.Proofs.Json.Passing

namespace CodeNavigator.Json

open Text.Utf8 (bytes bytes_append bytes_cons)

theorem ComesTo.map {First Second : Type} {reading : Reading First} {rest : List UInt8}
    {result : Except Cause First} (comes : ComesTo reading rest result) (change : First → Second) :
    ComesTo (reading.map fun (value, rest) => (change value, rest)) rest (result.map change) := by
  cases result with
  | ok value =>
    have read : reading = .ok (value, rest) := comes
    rw [read]
    rfl
  | error cause =>
    obtain ⟨unread, read⟩ := comes
    rw [read]
    exact ⟨unread, rfl⟩

/-! ### Other kinds -/

/-- A bracket that opens a list or an object. -/
def Opens (byte : UInt8) : Prop :=
  byte = ascii '[' ∨ byte = ascii '\x7b'

/-- A value with brackets begins with one. -/
theorem Value.Begins.opens {value : Value} {first : UInt8} (begins : value.Begins first)
    (nested : value.nesting ≠ 0) : Opens first := by
  cases value with
  | list items => exact Or.inl begins
  | object members => exact Or.inr begins
  | _ => exact (nested rfl).elim

/-- Only a string begins with a quote. -/
theorem Value.Begins.ne_quote {value : Value} {first : UInt8} (begins : value.Begins first)
    (other : value.asString? = none) : first ≠ ascii '"' := by
  cases value with
  | number number => exact BeginsNumber.ne_of_ne begins rfl
  | boolean value => cases value <;> cases begins <;> decide
  | string text => cases other
  | _ => cases begins; decide

/-- Only null begins like null. -/
theorem Value.Begins.ne_null {value : Value} {first : UInt8} (begins : value.Begins first)
    (other : value ≠ .null) : first ≠ ascii 'n' := by
  cases value with
  | null => exact (other rfl).elim
  | number number => exact BeginsNumber.ne_of_ne begins rfl
  | boolean value => cases value <;> cases begins <;> decide
  | _ => cases begins; decide

theorem skipBlanks_valueText (layout : Nat → Layout) (level : Nat) (value : Value)
    {blanks : List Char} (blank : Blank blanks) (rest : List UInt8) :
    skipBlanks (bytes blanks ++ (bytes (valueText layout level value) ++ rest)) =
      bytes (valueText layout level value) ++ rest := by
  obtain ⟨first, others, whole, begins⟩ := exists_bytes_valueText layout level value
  rw [skipBlanks_append blank, whole, List.cons_append, skipBlanks_cons begins.visible.1]

/-- Where no bracket may open, none is opened. -/
theorem readValue_zero {first : UInt8} (opens : Opens first) (tokens : TokenReaders)
    (rest : List UInt8) :
    readValue tokens 0 (first :: rest) = .error (.next .nestingTooDeep (first :: rest)) := by
  rw [readValue.eq_def]
  rcases opens with rfl | rfl <;> rfl

/-- Where no bracket may open, a value without brackets is read, and no other. -/
theorem readValue_shallow {layout : Nat → Layout} (separates : ∀ level, (layout level).Separates)
    {value : Value} (readable : value.IsReadable) (level : Nat) {blanks : List Char}
    (blank : Blank blanks) {rest : List UInt8} (ends : EndsNumber rest) :
    ComesTo (readValue keptTokens 0
        (bytes blanks ++ (bytes (valueText layout level value) ++ rest))) rest
      (if value.nesting = 0 then .ok value else .error .nestingTooDeep) := by
  rw [readValue_blanks blank]
  by_cases simple : value.nesting = 0
  · rw [if_pos simple]
    exact readValue_valueText separates value readable (Nat.le_of_eq simple) level rest ends
  · obtain ⟨first, others, whole, begins⟩ := exists_bytes_valueText layout level value
    rw [if_neg simple, whole, List.cons_append, readValue_zero (begins.opens simple)]
    exact ⟨_, rfl⟩

/-- A written value is never faulty in itself, so all that can be wrong with it is its kind. -/
theorem otherKind_valueText {layout : Nat → Layout} (separates : ∀ level, (layout level).Separates)
    {value : Value} (readable : value.IsReadable) (level : Nat) {blanks : List Char}
    (blank : Blank blanks) {rest : List UInt8} (ends : EndsNumber rest) :
    otherKind (bytes blanks ++ (bytes (valueText layout level value) ++ rest)) = unwanted := by
  have reads := readValue_shallow separates readable level blank ends
  rw [otherKind]
  split at reads
  · rw [reads]
  · obtain ⟨unread, reads⟩ := reads
    rw [reads]
    rfl

/-! ### What a form makes of a value -/

/-- What is there, or the fault of a form where nothing is. -/
def wanted {Result : Type} : Option Result → Except Cause Result
  | some result => .ok result
  | none => .error .unexpectedForm

theorem wanted_map {First Second : Type} (found : Option First) (change : First → Second) :
    (wanted found).map change = wanted (found.map change) := by
  cases found <;> rfl

/-- A result, or the fault of brackets that nest deeper than the levels that are left. -/
def within {Result : Type} (levels nesting : Nat) (result : Result) : Except Cause Result :=
  if nesting ≤ levels then .ok result else .error .nestingTooDeep

/-- A document writes a value: the value stands there in some layout, with blanks around it. -/
def Value.IsWrittenAs (value : Value) (document : String) : Prop :=
  ∃ before layout after, Blank before ∧ (∀ level, (layout level : Layout).Separates) ∧ Blank after ∧
    document = String.ofList (before ++ (valueText layout 0 value ++ after))

theorem Value.isWrittenAs_compact (value : Value) : value.IsWrittenAs value.compact :=
  ⟨[], _, [], nofun, fun _ => Layout.separates_compact, nofun, by
    rw [List.nil_append, List.append_nil, compact]⟩

theorem Value.isWrittenAs_indented (value : Value) : value.IsWrittenAs value.indented :=
  ⟨[], _, [], nofun, Layout.separates_indented, nofun, by
    rw [List.nil_append, List.append_nil, indented]⟩

/-- A document still writes the value when its last line is ended. -/
theorem Value.IsWrittenAs.line {value : Value} {document : String}
    (written : value.IsWrittenAs document) : value.IsWrittenAs (document ++ "\n") := by
  obtain ⟨before, layout, after, blankBefore, separates, blankAfter, rfl⟩ := written
  refine ⟨before, layout, after ++ ['\n'], blankBefore, separates, ?_, ?_⟩
  · intro character member
    rcases List.mem_append.mp member with member | member
    · exact blankAfter character member
    · rw [List.mem_singleton.mp member]
      decide
  · apply String.toList_injective
    simp

namespace Form

variable {Result Item Draft : Type} {levels : Nat}

/-- A form makes a result of a value, in whichever way the value is laid out, whatever blanks stand
before it, and whatever follows it that does not continue a number. -/
def Makes (form : Form Result) (levels : Nat) (value : Value) (result : Except Cause Result) :
    Prop :=
  ∀ (layout : Nat → Layout) (level : Nat) (blanks : List Char) (rest : List UInt8),
    (∀ level, (layout level).Separates) → Blank blanks → EndsNumber rest →
      ComesTo (form levels (bytes blanks ++ (bytes (valueText layout level value) ++ rest))) rest
        result

/-- What a form makes of a value where no blanks stand before it. -/
theorem Makes.comesTo {form : Form Result} {value : Value} {result : Except Cause Result}
    (makes : form.Makes levels value result) {layout : Nat → Layout}
    (separates : ∀ level, (layout level).Separates) (level : Nat) {rest : List UInt8}
    (ends : EndsNumber rest) :
    ComesTo (form levels (bytes (valueText layout level value) ++ rest)) rest result :=
  makes layout level [] rest separates nofun ends

/-- What a form makes of a value is what it makes of every document that writes the value. -/
theorem Makes.readDocument {form : Form Result} {value : Value} {result : Except Cause Result}
    (makes : form.Makes levels value result) {document : String}
    (written : value.IsWrittenAs document) :
    (readDocument (form levels) (Text.Utf8.encode document)).mapError Fault.cause = result := by
  obtain ⟨before, layout, after, blankBefore, separates, blankAfter, rfl⟩ := written
  have last : EndsNumber [] := nofun
  have comes := makes layout 0 before (bytes after ++ []) separates blankBefore
    (endsNumber_append blankAfter last)
  have ended : skipBlanks (bytes after ++ []) = [] := skipBlanks_append blankAfter []
  rw [Text.Utf8.encode_ofList, bytes_append, bytes_append, ← List.append_nil (bytes after),
    Json.readDocument]
  cases result with
  | ok result =>
    rw [show form levels _ = .ok (result, _) from comes]
    dsimp only [bind, Except.bind]
    rw [ended]
    rfl
  | error cause =>
    obtain ⟨unread, failed⟩ := comes
    rw [failed]
    rfl

theorem Makes.decode {form : Form Result} {value : Value} {result : Except Cause Result}
    (makes : form.Makes nestingLimit value result) {document : String}
    (written : value.IsWrittenAs document) :
    form.decode document = result.mapError Cause.category := by
  rw [← makes.readDocument written, Form.decode, decodeBytes]
  cases Json.readDocument (form nestingLimit) (Text.Utf8.encode document) <;> rfl

/-! ### Simple values -/

theorem makes_text {value : Value} (readable : value.IsReadable) :
    Form.text.Makes levels value (wanted value.asString?) := by
  intro layout level blanks rest separates blank ends
  obtain ⟨first, others, whole, begins⟩ := exists_bytes_valueText layout level value
  have none : Blank [] := nofun
  have other := otherKind_valueText separates readable level none ends
  rw [show bytes [] = [] from rfl, List.nil_append, whole] at other
  unfold Form.text
  rw [skipBlanks_valueText _ _ _ blank, whole, List.cons_append]
  cases isText : value.asString? with
  | none =>
    simp only [if_neg (begins.ne_quote isText)]
    exact ⟨[], congrArg Except.error other⟩
  | some text =>
    obtain rfl : value = .string text := by
      cases value with
      | string => exact congrArg Value.string (Option.some.inj isText)
      | _ => cases isText
    obtain ⟨following, same, reads⟩ := readString_stringText text
    cases whole.symm.trans same
    exact reads rest

theorem makes_boolean (value : Bool) : Form.boolean.Makes levels (.boolean value) (.ok value) := by
  intro layout level blanks rest _ blank _
  show Form.boolean levels _ = _
  unfold Form.boolean
  rw [readValue_blanks blank, valueText, readValue_booleanText]

/-- The integer that a value is, if it lies between two bounds. -/
def integerBetween? (low high : Int) : Value → Option Int
  | .number (.integer value) => if low ≤ value ∧ value ≤ high then some value else none
  | _ => none

theorem makes_integer {value : Value} (readable : value.IsReadable) (low high : Int) :
    (Form.integer low high).Makes levels value (wanted (integerBetween? low high value)) := by
  intro layout level blanks rest separates blank ends
  have other := otherKind_valueText separates readable level blank ends
  have reads := readValue_shallow separates readable level blank ends
  unfold Form.integer
  rw [other]
  by_cases simple : value.nesting = 0
  · rw [if_pos simple] at reads
    rw [show readValue keptTokens 0 _ = .ok (value, rest) from reads]
    cases value with
    | number number =>
      cases number with
      | integer value =>
        by_cases inside : low ≤ value ∧ value ≤ high
        · simp [integerBetween?, inside, wanted, ComesTo]
        · simp [integerBetween?, inside, wanted, ComesTo, unwanted]
      | decimal => exact ⟨[], rfl⟩
    | _ => exact ⟨[], rfl⟩
  · rw [if_neg simple] at reads
    obtain ⟨unread, reads⟩ := reads
    rw [reads]
    cases value with
    | list => exact ⟨[], rfl⟩
    | object => exact ⟨[], rfl⟩
    | _ => exact (simple rfl).elim

theorem makes_unsigned {value : Value} (readable : value.IsReadable) (bits : Nat) :
    (Form.unsigned bits).Makes levels value
      (wanted ((integerBetween? 0 (Int.pow 2 bits - 1) value).map Int.toNat)) := by
  intro layout level blanks rest separates blank ends
  rw [← wanted_map]
  exact (makes_integer readable _ _ layout level blanks rest separates blank ends).map Int.toNat

/-- An object with any members is read as they are. -/
theorem makes_object {members : List (String × Value)} (readable : AreReadableMembers members)
    (fits : nestingOfMembers members < levels) :
    Form.object.Makes levels (.object members) (.ok members) := by
  intro layout level blanks rest separates blank ends
  have reads := readValue_valueText separates (.object members) readable fits level rest ends
  show Form.object levels _ = _
  unfold Form.object
  rw [readValue_blanks blank, reads]

/-! ### Null and choices -/

theorem makes_optional_null (form : Form Result) :
    (Form.optional form).Makes levels .null (.ok none) := by
  intro layout level blanks rest _ blank _
  show Form.optional form levels _ = _
  unfold Form.optional
  rw [skipBlanks_valueText _ _ _ blank]
  rfl

/-- A value that is not null is read by the form itself. -/
theorem Makes.optional {form : Form Result} {value : Value} {result : Except Cause Result}
    (makes : form.Makes levels value result) (present : value ≠ .null) :
    (Form.optional form).Makes levels value (result.map some) := by
  intro layout level blanks rest separates blank ends
  have comes := makes.comesTo separates level ends
  obtain ⟨first, others, whole, begins⟩ := exists_bytes_valueText layout level value
  unfold Form.optional
  rw [skipBlanks_valueText _ _ _ blank, whole, List.cons_append]
  rw [whole, List.cons_append] at comes
  simp only [if_neg (begins.ne_null present)]
  exact comes.map some

theorem makes_choice {meaning : String → Option Result} {name : String} {result : Result}
    (known : meaning name = some result) :
    (Form.choice meaning).Makes levels (.string name) (.ok result) := by
  intro layout level blanks rest _ blank _
  obtain ⟨others, whole, reads⟩ := readString_stringText name
  show Form.choice meaning levels _ = _
  unfold Form.choice Form.text
  rw [skipBlanks_valueText _ _ _ blank, valueText, whole]
  show (readString (others ++ rest)).bind _ = _
  rw [reads rest]
  simp only [Except.bind, known]

/-! ### Lists -/

theorem makes_list_zero (form : Form Item) (items : List Value) :
    (Form.list form).Makes 0 (.list items) (.error .nestingTooDeep) := by
  intro layout level blanks rest _ blank _
  obtain ⟨following, whole⟩ :=
    exists_bytes_bracketed (layout level) '[' ']' (itemTexts layout (level + 1) items)
  unfold Form.list
  rw [skipBlanks_valueText _ _ _ blank, valueText, whole]
  exact ⟨_, rfl⟩

theorem readsItems_of_makes {form : Form Item} {items : List Value}
    {results : List (Except Cause Item)} (parts : List.Forall₂ (form.Makes levels) items results)
    {layout : Nat → Layout} (separates : ∀ level, (layout level).Separates) (level : Nat) :
    List.Forall₂ (ReadsItem (form levels)) (itemTexts layout level items) results := by
  induction parts with
  | nil => exact List.Forall₂.nil
  | cons part _ inductionHypothesis =>
    have reads := readsItem_of_reads fun _ ends => part.comesTo separates level ends
    exact List.Forall₂.cons reads inductionHypothesis

/-- A list is read item by item, up to the first that fails. -/
theorem makes_list {form : Form Item} {items : List Value} {results : List (Except Cause Item)}
    (parts : List.Forall₂ (form.Makes levels) items results) :
    (Form.list form).Makes (levels + 1) (.list items) (results.mapM id) := by
  intro layout level blanks rest separates blank _
  obtain ⟨others, whole, comes⟩ := readItems_bracketed (separates level)
    (readsItems_of_makes parts separates (level + 1)) rest
  unfold Form.list
  rw [skipBlanks_valueText _ _ _ blank, valueText, whole]
  exact comes

/-! ### Fields -/

/-- A step from one draft of a record to the next. -/
abbrev Step (Draft : Type) := Draft → Except Cause Draft

/-- What some steps come to, one after another. -/
def take (steps : List (Step Draft)) (draft : Draft) : Except Cause Draft :=
  steps.foldlM (fun draft step => step draft) draft

theorem take_cons (step : Step Draft) (steps : List (Step Draft)) (draft : Draft) :
    take (step :: steps) draft = (step draft).bind (take steps) :=
  List.foldlM_cons

theorem take_append (before after : List (Step Draft)) (draft : Draft) :
    take (before ++ after) draft = (take before draft).bind (take after) :=
  List.foldlM_append

/-- A field takes a step with a value. -/
def Field.Takes (field : Field Draft) (levels : Nat) (value : Value) (step : Step Draft) : Prop :=
  ∀ draft, Makes (field.read draft) levels value (step draft)

theorem field_takes {name : String} {form : Form Result} {get : Draft → Option Result}
    {set : Draft → Result → Draft} {mayBeMissing : Bool} {value : Value}
    {result : Except Cause Result} (makes : form.Makes levels value result) :
    (Form.field name form get set mayBeMissing).Takes levels value
      fun draft => result.map (set draft) :=
  fun draft layout level blanks rest separates blank ends =>
    (makes layout level blanks rest separates blank ends).map (set draft)

/-! ### Members -/

/-- Read one member of an object into a draft, the quote before its name already read. -/
def readInto (fields : List (Field Draft)) (levels : Nat) (draft : Draft) (bytes : List UInt8) :
    Except Fault (Draft × List UInt8) := do
  let (name, rest) ← readString bytes
  match fields.find? fun field => field.name = name with
  | none => do
    let rest ← passValue (← readColon rest)
    .ok (draft, rest)
  | some field => do
    if field.isFilled draft then .error unwanted else field.read draft levels (← readColon rest)

theorem readByName_succ (fields : List (Field Draft)) (levels limit : Nat) (isFirst : Bool)
    (draft : Draft) (bytes : List UInt8) :
    readByName fields levels (limit + 1) isFirst draft bytes =
      (nextMember isFirst bytes).bind fun turn =>
        match turn with
        | .closed rest => .ok (draft, rest)
        | .another bytes => (readInto fields levels draft bytes).bind fun (draft, rest) =>
          readByName fields levels limit false draft rest := by
  rw [readByName]
  congr 1
  funext turn
  cases turn with
  | closed rest => rfl
  | another bytes =>
    dsimp only [readInto, bind, Except.bind]
    cases readString bytes with
    | error => rfl
    | ok read =>
      dsimp only
      cases fields.find? fun field => field.name = read.1 with
      | none =>
        dsimp only
        cases readColon read.2 with
        | error => rfl
        | ok rest =>
          dsimp only
          cases passValue rest <;> rfl
      | some field =>
        dsimp only
        split
        · rfl
        · cases readColon read.2 <;> rfl

/-- A step is what reading a member from its text comes to. -/
def IsStepOf (fields : List (Field Draft)) (levels : Nat) (text : List Char) (step : Step Draft) :
    Prop :=
  ∃ following, bytes text = ascii '"' :: following ∧ ∀ draft rest, EndsNumber rest →
    ComesTo (readInto fields levels draft (following ++ rest)) rest (step draft)

/-- A member takes a step, in whichever way it is laid out. -/
def Takes (fields : List (Field Draft)) (levels : Nat) (member : String × Value)
    (step : Step Draft) : Prop :=
  ∀ (layout : Nat → Layout) (level : Nat) (around : Layout), (∀ level, (layout level).Separates) →
    around.Separates → IsStepOf fields levels
      (stringText member.1 ++ around.afterName ++ valueText layout level member.2) step

/-- A member of an unknown name changes nothing, however deep its brackets nest. -/
theorem takes_unknown {fields : List (Field Draft)} {name : String} (value : Value)
    (unknown : fields.find? (fun field => field.name = name) = none) :
    Takes fields levels (name, value) .ok := by
  intro layout level around separates names
  obtain ⟨following, after, blank, whole, reads⟩ :=
    readName_colon names (readsText_keptTokens name) (valueText layout level value)
  refine ⟨following, whole, fun draft rest ends => ?_⟩
  obtain ⟨afterName, named, colon⟩ := reads rest
  show readInto fields levels draft _ = _
  rw [readInto, show readString _ = _ from named]
  simp only [bind, Except.bind, unknown, colon,
    passValue_valueText separates value level blank ends]

/-- A member of a known name fills its field, but only once. -/
theorem takes_known {fields : List (Field Draft)} {name : String} {field : Field Draft}
    {value : Value} {step : Step Draft}
    (known : fields.find? (fun field => field.name = name) = some field)
    (takes : field.Takes levels value step) :
    Takes fields levels (name, value) fun draft =>
      if field.isFilled draft then .error .unexpectedForm else step draft := by
  intro layout level around separates names
  obtain ⟨following, after, blank, whole, reads⟩ :=
    readName_colon names (readsText_keptTokens name) (valueText layout level value)
  refine ⟨following, whole, fun draft rest ends => ?_⟩
  obtain ⟨afterName, named, colon⟩ := reads rest
  rw [readInto, show readString _ = _ from named]
  simp only [bind, Except.bind, known, colon]
  split
  · exact ⟨[], rfl⟩
  · exact takes draft layout level after rest separates blank ends

/-! ### Records -/

theorem readByName_afterPart {fields : List (Field Draft)} {layout : Layout}
    (separates : layout.Separates) {texts : List (List Char)} {steps : List (Step Draft)}
    (parts : List.Forall₂ (IsStepOf fields levels) texts steps) {limit : Nat}
    (enough : texts.length < limit) (draft : Draft) (rest : List UInt8) :
    ComesTo (readByName fields levels limit false draft
      (bytes (afterPart layout '\x7d' texts) ++ rest)) rest (take steps draft) := by
  induction parts generalizing limit draft with
  | nil =>
    obtain ⟨limit, rfl⟩ := Nat.exists_eq_add_one_of_ne_zero (Nat.ne_of_gt enough)
    rw [readByName_succ, afterPart, List.flatMap_nil, List.nil_append,
      bytes_closing _ (Or.inr rfl), nextMember_closing separates.closing]
    rfl
  | @cons text step texts steps part parts inductionHypothesis =>
    obtain ⟨limit, rfl⟩ :=
      Nat.exists_eq_add_one_of_ne_zero (Nat.ne_of_gt (Nat.zero_lt_of_lt enough))
    obtain ⟨following, whole, reads⟩ := part
    have comes := reads draft _ (endsNumber_afterPart separates (Or.inr rfl) texts rest)
    rw [readByName_succ, afterPart_cons, bytes_append, bytes_append, List.append_assoc,
      List.append_assoc, whole, List.cons_append, nextMember_between separates,
      take_cons]
    exact comes.bind fun draft _ => inductionHypothesis (Nat.lt_of_succ_lt_succ enough) draft

/-- An object is read into a draft member by member, up to the first that fails. -/
theorem readByName_bracketed {fields : List (Field Draft)} {layout : Layout}
    (separates : layout.Separates) {texts : List (List Char)} {steps : List (Step Draft)}
    (parts : List.Forall₂ (IsStepOf fields levels) texts steps) (draft : Draft)
    (rest : List UInt8) :
    ∃ others, bytes (bracketed layout '\x7b' '\x7d' texts) ++ rest = ascii '\x7b' :: others ∧
      ComesTo (readByName fields levels (others.length + 1) true draft others) rest
        (take steps draft) := by
  cases parts with
  | nil => exact ⟨ascii '\x7d' :: rest, rfl, rfl⟩
  | @cons text step texts steps part parts =>
    obtain ⟨following, whole, reads⟩ := part
    have comes := reads draft _ (endsNumber_afterPart separates (Or.inr rfl) texts rest)
    have fewer := length_lt_afterPart separates '\x7d' texts
    refine ⟨bytes layout.opening ++ (bytes text ++ (bytes (afterPart layout '\x7d' texts) ++ rest)),
      ?_, ?_⟩
    · rw [bracketed_cons, bytes_cons, bytes_append, bytes_append]
      simp only [List.append_assoc]
      rfl
    · have enough : texts.length <
          (bytes layout.opening ++
            (bytes text ++ (bytes (afterPart layout '\x7d' texts) ++ rest))).length := by
        simp only [List.length_append]
        omega
      have later (draft : Draft) := readByName_afterPart separates parts enough draft rest
      rw [whole, List.cons_append] at later ⊢
      rw [readByName_succ, nextMember_first separates.opening, take_cons]
      exact comes.bind fun draft _ => later draft

theorem comesTo_wanted (found : Option Result) (rest : List UInt8) :
    ComesTo (match found with
      | some result => .ok (result, rest)
      | none => .error unwanted) rest (wanted found) := by
  cases found with
  | some result => rfl
  | none => exact ⟨[], rfl⟩

theorem makes_record_zero (fields : List (Field Draft)) (empty : Draft)
    (finish : Draft → Option Result) (members : List (String × Value)) :
    (Form.record fields empty finish).Makes 0 (.object members) (.error .nestingTooDeep) := by
  intro layout level blanks rest _ blank _
  obtain ⟨following, whole⟩ := exists_bytes_bracketed (layout level) '\x7b' '\x7d'
    (memberTexts layout (level + 1) (layout level).afterName members)
  unfold Form.record
  rw [skipBlanks_valueText _ _ _ blank, valueText, whole]
  exact ⟨_, rfl⟩

theorem areSteps_of_takes {fields : List (Field Draft)} {members : List (String × Value)}
    {steps : List (Step Draft)} (parts : List.Forall₂ (Takes fields levels) members steps)
    {layout : Nat → Layout} (separates : ∀ level, (layout level).Separates) (level : Nat)
    {around : Layout} (names : around.Separates) :
    List.Forall₂ (IsStepOf fields levels) (memberTexts layout level around.afterName members)
      steps := by
  induction parts with
  | nil => exact List.Forall₂.nil
  | cons part _ inductionHypothesis =>
    exact List.Forall₂.cons (part layout level around separates names) inductionHypothesis

/-- A record is made of the steps that the members of an object take from its empty draft. -/
theorem makes_record {fields : List (Field Draft)} {members : List (String × Value)}
    {steps : List (Step Draft)} (parts : List.Forall₂ (Takes fields levels) members steps)
    (empty : Draft) (finish : Draft → Option Result) :
    (Form.record fields empty finish).Makes (levels + 1) (.object members)
      ((take steps empty).bind fun draft => wanted (finish draft)) := by
  intro layout level blanks rest separates blank _
  obtain ⟨others, whole, comes⟩ := readByName_bracketed (separates level)
    (areSteps_of_takes parts separates (level + 1) (separates level)) empty rest
  unfold Form.record
  rw [skipBlanks_valueText _ _ _ blank, valueText, whole]
  exact comes.bind fun draft _ => comesTo_wanted (finish draft) rest

/-- A record whose steps come to a draft that can be finished. -/
theorem makes_record_of_take {fields : List (Field Draft)} {members : List (String × Value)}
    {steps : List (Step Draft)} (parts : List.Forall₂ (Takes fields levels) members steps)
    {empty draft : Draft} {finish : Draft → Option Result} {result : Result}
    (taken : take steps empty = .ok draft) (finished : finish draft = some result) :
    (Form.record fields empty finish).Makes (levels + 1) (.object members) (.ok result) := by
  have made := makes_record parts empty finish
  rw [taken] at made
  rw [show Except.ok result = wanted (some result) from rfl, ← finished]
  exact made

/-! ### Records as lists -/

/-- What becomes of a draft when the items end before the fields do. -/
def closed (spare : List (Field Draft)) (draft : Draft) : Except Cause Draft :=
  if spare.all Field.mayBeMissing then .ok draft else .error .unexpectedForm

theorem bind_closed {spare : List (Field Draft)} (missing : spare.all Field.mayBeMissing = true)
    (read : Except Cause Draft) : read.bind (closed spare) = read := by
  cases read with
  | error => rfl
  | ok draft => exact if_pos missing

theorem readInOrder_closing {blanks : List Char} (blank : Blank blanks)
    (spare : List (Field Draft)) (isFirst : Bool) (draft : Draft) (rest : List UInt8) :
    ComesTo (readInOrder levels spare isFirst draft (bytes blanks ++ ascii ']' :: rest)) rest
      (closed spare draft) := by
  cases spare with
  | nil =>
    show readInOrder levels [] isFirst draft _ = _
    unfold readInOrder
    rw [skipBlanks_append blank]
    rfl
  | cons field spare =>
    unfold readInOrder closed
    rw [nextItem_closing blank]
    dsimp only [bind, Except.bind]
    split
    · rfl
    · exact ⟨[], rfl⟩

/-- Items stand in order for the first fields of a record, and each takes its step. The fields that
are left over are spare. -/
inductive InOrder (levels : Nat) :
    List (Field Draft) → List Value → List (Step Draft) → List (Field Draft) → Prop
  | ended (spare : List (Field Draft)) : InOrder levels spare [] [] spare
  | next {field : Field Draft} {fields spare : List (Field Draft)} {item : Value}
    {items : List Value} {step : Step Draft} {steps : List (Step Draft)}
    (first : field.Takes levels item step) (others : InOrder levels fields items steps spare) :
    InOrder levels (field :: fields) (item :: items) (step :: steps) spare

theorem InOrder.append {fields spare : List (Field Draft)} {items : List Value}
    {steps : List (Step Draft)} {field : Field Draft} {item : Value} {step : Step Draft}
    (parts : InOrder levels fields items steps (field :: spare))
    (takes : field.Takes levels item step) :
    InOrder levels fields (items ++ [item]) (steps ++ [step]) spare := by
  generalize same : field :: spare = left at parts
  induction parts with
  | ended =>
    subst same
    exact .next takes (.ended spare)
  | next first _ inductionHypothesis => exact .next first (inductionHypothesis same)

theorem readInOrder_afterPart {layout : Nat → Layout}
    (separates : ∀ level, (layout level).Separates) {around : Layout}
    (between : around.Separates) (level : Nat) {items : List Value}
    {fields spare : List (Field Draft)} {steps : List (Step Draft)}
    (parts : InOrder levels fields items steps spare) (draft : Draft) (rest : List UInt8) :
    ComesTo (readInOrder levels fields false draft
        (bytes (afterPart around ']' (itemTexts layout level items)) ++ rest)) rest
      ((take steps draft).bind (closed spare)) := by
  induction parts generalizing draft with
  | ended spare =>
    rw [itemTexts, afterPart, List.flatMap_nil, List.nil_append, bytes_closing _ (Or.inl rfl)]
    exact readInOrder_closing between.closing spare false draft rest
  | @next field fields spare item items step steps first _ inductionHypothesis =>
    have comes := (first draft).comesTo separates level
      (endsNumber_afterPart between (Or.inl rfl) (itemTexts layout level items) rest)
    obtain ⟨byte, following, whole, begins⟩ := exists_bytes_valueText layout level item
    rw [whole, List.cons_append] at comes
    rw [itemTexts, afterPart_cons, bytes_append, bytes_append, List.append_assoc, List.append_assoc,
      whole, List.cons_append, readInOrder,
      nextItem_between between begins.visible.1 begins.visible.2, take_cons]
    show ComesTo _ _ ((step draft >>= take _) >>= closed spare)
    rw [bind_assoc]
    exact comes.bind fun draft _ => inductionHypothesis draft

/-- The items of a list are read into a draft in order, one for each field. The fields that are left
over must be ones that may be missing. -/
theorem readInOrder_bracketed {layout : Nat → Layout}
    (separates : ∀ level, (layout level).Separates) {around : Layout}
    (between : around.Separates) (level : Nat) {items : List Value}
    {fields spare : List (Field Draft)} {steps : List (Step Draft)}
    (parts : InOrder levels fields items steps spare) (draft : Draft) (rest : List UInt8) :
    ∃ others, bytes (bracketed around '[' ']' (itemTexts layout level items)) ++ rest =
        ascii '[' :: others ∧
      ComesTo (readInOrder levels fields true draft others) rest
        ((take steps draft).bind (closed spare)) := by
  cases parts with
  | ended =>
    have none : Blank [] := nofun
    exact ⟨ascii ']' :: rest, rfl, readInOrder_closing none _ true draft rest⟩
  | @next field fields spare item items step steps first parts =>
    obtain ⟨byte, following, whole, begins⟩ := exists_bytes_valueText layout level item
    have comes := (first draft).comesTo separates level
      (endsNumber_afterPart between (Or.inl rfl) (itemTexts layout level items) rest)
    refine ⟨bytes around.opening ++ (bytes (valueText layout level item) ++
      (bytes (afterPart around ']' (itemTexts layout level items)) ++ rest)), ?_, ?_⟩
    · rw [itemTexts, bracketed_cons, bytes_cons, bytes_append, bytes_append]
      simp only [List.append_assoc]
      rfl
    · rw [whole, List.cons_append] at comes
      rw [whole, List.cons_append, readInOrder,
        nextItem_first between.opening begins.visible.1 begins.visible.2, take_cons]
      show ComesTo _ _ ((step draft >>= take _) >>= closed spare)
      rw [bind_assoc]
      exact comes.bind fun draft _ =>
        readInOrder_afterPart separates between level parts draft rest

/-- A record is made of the items of a list as well. -/
theorem makes_record_list {items : List Value} {fields spare : List (Field Draft)}
    {steps : List (Step Draft)} (parts : InOrder levels fields items steps spare) (empty : Draft)
    (finish : Draft → Option Result) :
    (Form.record fields empty finish).Makes (levels + 1) (.list items)
      (((take steps empty).bind (closed spare)).bind fun draft => wanted (finish draft)) := by
  intro layout level blanks rest separates blank _
  obtain ⟨others, whole, comes⟩ := readInOrder_bracketed separates (separates level) (level + 1)
    parts empty rest
  unfold Form.record
  rw [skipBlanks_valueText _ _ _ blank, valueText, whole]
  exact comes.bind fun draft _ => comesTo_wanted (finish draft) rest

end Form

end CodeNavigator.Json
