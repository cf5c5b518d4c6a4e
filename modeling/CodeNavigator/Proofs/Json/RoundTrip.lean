/-
This file proves that a JSON value is read back from its written form. The form may be laid out in
any way that puts nothing but blanks around the commas and colons, which both the compact and the
indented layout do. The value is limited only by what a reader can take: its numbers, and the depth
to which its brackets nest.

The proof follows the value. A list is read item by item and an object member by member, each from
its own part of the written form, so what is proved about the parts carries over to the whole.
-/

import CodeNavigator.Json.Reader
import CodeNavigator.Proofs.Json.NumberToken
import CodeNavigator.Proofs.Json.StringToken
import Mathlib.Data.List.Forall2

namespace CodeNavigator.Json

open Text.Utf8 (bytes bytes_append bytes_cons)

/-! ### Blanks -/

/-- Nothing but blanks. -/
def Blank (characters : List Char) : Prop :=
  ∀ character ∈ characters, character ∈ [' ', '\n', '\t', '\r']

theorem isBlank_of_mem_bytes {blanks : List Char} (blank : Blank blanks) {byte : UInt8}
    (member : byte ∈ bytes blanks) : isBlank byte = true := by
  obtain ⟨character, inside, member⟩ := List.mem_flatMap.mp member
  have space := blank character inside
  simp only [List.mem_cons, List.not_mem_nil, or_false] at space
  rcases space with rfl | rfl | rfl | rfl
  all_goals
    rw [List.mem_singleton.mp member]
    rfl

theorem skipBlanks_append {blanks : List Char} (blank : Blank blanks) (rest : List UInt8) :
    skipBlanks (bytes blanks ++ rest) = skipBlanks rest :=
  List.dropWhile_append_of_pos fun _ member => isBlank_of_mem_bytes blank member

theorem skipBlanks_cons {first : UInt8} (visible : isBlank first = false) (rest : List UInt8) :
    skipBlanks (first :: rest) = first :: rest :=
  List.dropWhile_cons_of_neg (by simp [visible])

/-- Blanks before a value are passed over. -/
theorem readValue_blanks {blanks : List Char} (blank : Blank blanks) (tokens : TokenReaders)
    (levels : Nat) (rest : List UInt8) :
    readValue tokens levels (bytes blanks ++ rest) = readValue tokens levels rest := by
  rw [readValue.eq_def, readValue.eq_def tokens levels rest]
  dsimp only
  rw [skipBlanks_append blank]

theorem byte_of_isBlank {byte : UInt8} (blank : isBlank byte = true) :
    isDigit byte = false ∧ byte ≠ ascii '.' ∧ byte ≠ ascii 'e' ∧ byte ≠ ascii 'E' := by
  simp only [isBlank, Bool.or_eq_true, decide_eq_true_eq] at blank
  rcases blank with ((rfl | rfl) | rfl) | rfl <;> decide

theorem endsNumber_cons {first : UInt8} {rest : List UInt8}
    (ends : first = ascii ',' ∨ first = ascii ']' ∨ first = ascii '\x7d') :
    EndsNumber (first :: rest) := by
  rintro byte ⟨⟩
  rcases ends with rfl | rfl | rfl <;> decide

/-- Blanks end a number. -/
theorem endsNumber_append {blanks : List Char} (blank : Blank blanks) {rest : List UInt8}
    (ends : EndsNumber rest) : EndsNumber (bytes blanks ++ rest) := by
  cases whole : bytes blanks with
  | nil => exact ends
  | cons first others =>
    rintro byte ⟨⟩
    exact byte_of_isBlank (isBlank_of_mem_bytes blank (whole.symm ▸ List.mem_cons_self))

/-! ### Layouts -/

/-- A layout that puts nothing but blanks around the parts, the commas and the colons. -/
structure Layout.Separates (layout : Layout) : Prop where
  opening : Blank layout.opening
  between : ∃ before after, layout.between = before ++ ',' :: after ∧ Blank before ∧ Blank after
  closing : Blank layout.closing
  afterName : ∃ before after, layout.afterName = before ++ ':' :: after ∧ Blank before ∧ Blank after

theorem Layout.separates_compact : Layout.compact.Separates := by
  refine ⟨nofun, ⟨[], [], rfl, nofun, nofun⟩, nofun, ⟨[], [], rfl, nofun, nofun⟩⟩

theorem Layout.separates_indented (level : Nat) : (Layout.indented level).Separates := by
  have line (level : Nat) : Blank ('\n' :: List.replicate (2 * level) ' ') := by
    intro character member
    rcases List.mem_cons.mp member with rfl | member
    · decide
    · rw [List.eq_of_mem_replicate member]
      decide
  have space : Blank [' '] := by
    intro character member
    rw [List.mem_singleton.mp member]
    decide
  exact ⟨line (level + 1), ⟨[], _, rfl, nofun, line (level + 1)⟩, line level,
    ⟨[], [' '], rfl, nofun, space⟩⟩

theorem intercalate_cons (between first : List Char) (others : List (List Char)) :
    between.intercalate (first :: others) = first ++ others.flatMap (between ++ ·) := by
  induction others generalizing first with
  | nil => rw [List.intercalate_singleton, List.flatMap_nil, List.append_nil]
  | cons second others inductionHypothesis =>
    rw [List.intercalate_cons_cons, inductionHypothesis, List.flatMap_cons, List.append_assoc,
      List.append_assoc]

/-! ### Results -/

/-- A reading comes to a result: a value, with the rest left unread, or a fault of the cause. -/
def ComesTo {Result : Type} (reading : Reading Result) (rest : List UInt8) :
    Except Cause Result → Prop
  | .ok value => reading = .ok (value, rest)
  | .error cause => ∃ unread, reading = .error ⟨cause, unread⟩

/-- One reading after another comes to the result of the one after that of the other. -/
theorem ComesTo.bind {First Second : Type} {reading : Reading First}
    {next : First × List UInt8 → Reading Second} {middle rest : List UInt8}
    {result : Except Cause First} {after : First → Except Cause Second}
    (first : ComesTo reading middle result)
    (later : ∀ value, result = .ok value → ComesTo (next (value, middle)) rest (after value)) :
    ComesTo (reading.bind next) rest (result.bind after) := by
  cases result with
  | ok value =>
    have read : reading = .ok (value, middle) := first
    rw [read]
    exact later value rfl
  | error cause =>
    obtain ⟨unread, read⟩ := first
    rw [read]
    exact ⟨unread, rfl⟩

theorem mapM_map_ok {Item : Type} (items : List Item) :
    (items.map Except.ok).mapM id = (.ok items : Except Cause (List Item)) := by
  induction items with
  | nil => rfl
  | cons item items inductionHypothesis =>
    rw [List.map_cons, List.mapM_cons, inductionHypothesis]
    rfl

/-! ### Lists -/

/-- A reader of items comes to the result of an item from its written form, whatever follows, and
does not take the form for the end of a list. -/
structure ReadsItem {Item : Type} (readItem : List UInt8 → Reading Item) (text : List Char)
    (result : Except Cause Item) : Prop where
  reads : ∀ rest, EndsNumber rest → ComesTo (readItem (bytes text ++ rest)) rest result
  visible : ∃ first others, bytes text = first :: others ∧ isBlank first = false ∧
    first ≠ ascii ']'

variable {layout : Layout} {Item : Type} {readItem : List UInt8 → Reading Item}

/-- What follows the first part between two brackets: the other parts and the closing bracket. -/
def afterPart (layout : Layout) (right : Char) (texts : List (List Char)) : List Char :=
  texts.flatMap (layout.between ++ ·) ++ layout.closing ++ [right]

theorem bracketed_cons (left right : Char) (text : List Char) (texts : List (List Char)) :
    bracketed layout left right (text :: texts) =
      left :: (layout.opening ++ (text ++ afterPart layout right texts)) := by
  simp only [bracketed, intercalate_cons, afterPart, List.cons_append, List.append_assoc]

theorem afterPart_cons (right : Char) (text : List Char) (texts : List (List Char)) :
    afterPart layout right (text :: texts) =
      layout.between ++ (text ++ afterPart layout right texts) := by
  simp only [afterPart, List.flatMap_cons, List.append_assoc]

theorem bytes_closing (blanks : List Char) {right : Char} (closes : right = ']' ∨ right = '\x7d')
    (rest : List UInt8) :
    bytes (blanks ++ [right]) ++ rest = bytes blanks ++ ascii right :: rest := by
  rw [bytes_append, List.append_assoc]
  rcases closes with rfl | rfl <;> rfl

theorem length_le_bytes (characters : List Char) :
    characters.length ≤ (bytes characters).length := by
  induction characters with
  | nil => exact Nat.le_refl 0
  | cons first rest inductionHypothesis =>
    have visible := first.utf8Size_pos
    rw [bytes_cons, List.length_append, String.length_utf8EncodeChar, List.length_cons]
    omega

/-- Every part takes at least a byte. -/
theorem length_lt_afterPart (separates : layout.Separates) (right : Char)
    (texts : List (List Char)) : texts.length < (bytes (afterPart layout right texts)).length := by
  refine Nat.lt_of_lt_of_le ?_ (length_le_bytes _)
  obtain ⟨before, after, between, _⟩ := separates.between
  induction texts with
  | nil => simp [afterPart]
  | cons text texts inductionHypothesis =>
    rw [afterPart_cons, between]
    simp only [List.length_append, List.length_cons] at inductionHypothesis ⊢
    omega

theorem endsNumber_afterPart (separates : layout.Separates) {right : Char}
    (closes : right = ']' ∨ right = '\x7d') (texts : List (List Char)) (rest : List UInt8) :
    EndsNumber (bytes (afterPart layout right texts) ++ rest) := by
  cases texts with
  | nil =>
    rw [afterPart, List.flatMap_nil, List.nil_append, bytes_closing _ closes]
    refine endsNumber_append separates.closing (endsNumber_cons (Or.inr ?_))
    exact closes.imp (congrArg ascii) (congrArg ascii)
  | cons text texts =>
    obtain ⟨before, after, between, blank, _⟩ := separates.between
    rw [afterPart_cons, between, List.append_assoc, bytes_append, List.append_assoc]
    exact endsNumber_append blank (endsNumber_cons (Or.inl rfl))

theorem nextItem_closing {blanks : List Char} (blank : Blank blanks) (isFirst : Bool)
    (rest : List UInt8) :
    nextItem isFirst (bytes blanks ++ ascii ']' :: rest) = .ok (.closed rest) := by
  unfold nextItem
  rw [skipBlanks_append blank]
  rfl

theorem nextItem_first {blanks : List Char} (blank : Blank blanks) {first : UInt8}
    (visible : isBlank first = false) (goesOn : first ≠ ascii ']') (rest : List UInt8) :
    nextItem true (bytes blanks ++ first :: rest) = .ok (.another (first :: rest)) := by
  unfold nextItem
  rw [skipBlanks_append blank, skipBlanks_cons visible]
  simp only [if_neg goesOn, if_true]

theorem nextItem_between (separates : layout.Separates) {first : UInt8}
    (visible : isBlank first = false) (goesOn : first ≠ ascii ']') (rest : List UInt8) :
    nextItem false (bytes layout.between ++ first :: rest) = .ok (.another (first :: rest)) := by
  obtain ⟨before, after, between, blankBefore, blankAfter⟩ := separates.between
  rw [between, bytes_append, bytes_cons, List.append_assoc, List.append_assoc]
  have comma (bytes : List UInt8) :
      skipBlanks (String.utf8EncodeChar ',' ++ bytes) = ascii ',' :: bytes := rfl
  have notEnd : ascii ',' ≠ ascii ']' := by decide
  unfold nextItem
  rw [skipBlanks_append blankBefore, comma]
  simp only [if_neg notEnd, Bool.false_eq_true, if_false, if_true, skipBlanks_append blankAfter,
    skipBlanks_cons visible, if_neg goesOn]

theorem readItems_afterPart (separates : layout.Separates) {texts : List (List Char)}
    {results : List (Except Cause Item)} (parts : List.Forall₂ (ReadsItem readItem) texts results)
    {limit : Nat} (enough : texts.length < limit) (rest : List UInt8) :
    ComesTo (readItems readItem limit false (bytes (afterPart layout ']' texts) ++ rest)) rest
      (results.mapM id) := by
  induction parts generalizing limit with
  | nil =>
    obtain ⟨limit, rfl⟩ := Nat.exists_eq_add_one_of_ne_zero (Nat.ne_of_gt enough)
    rw [readItems, afterPart, List.flatMap_nil, List.nil_append, bytes_closing _ (Or.inl rfl),
      nextItem_closing separates.closing]
    rfl
  | @cons text result texts results part parts inductionHypothesis =>
    obtain ⟨limit, rfl⟩ :=
      Nat.exists_eq_add_one_of_ne_zero (Nat.ne_of_gt (Nat.zero_lt_of_lt enough))
    obtain ⟨first, others, whole, visible, goesOn⟩ := part.visible
    have reads := part.reads _ (endsNumber_afterPart separates (Or.inl rfl) texts rest)
    have later := inductionHypothesis (Nat.lt_of_succ_lt_succ enough)
    rw [whole, List.cons_append] at reads
    rw [readItems, afterPart_cons, bytes_append, bytes_append, List.append_assoc, List.append_assoc,
      whole, List.cons_append, nextItem_between separates visible goesOn, List.mapM_cons]
    exact reads.bind fun _ _ => later.bind fun _ _ => rfl

/-- A list is read from its written form, item by item up to the first that cannot be read. -/
theorem readItems_bracketed (separates : layout.Separates) {texts : List (List Char)}
    {results : List (Except Cause Item)} (parts : List.Forall₂ (ReadsItem readItem) texts results)
    (rest : List UInt8) :
    ∃ others, bytes (bracketed layout '[' ']' texts) ++ rest = ascii '[' :: others ∧
      ComesTo (readItems readItem (others.length + 1) true others) rest (results.mapM id) := by
  cases parts with
  | nil => exact ⟨ascii ']' :: rest, rfl, rfl⟩
  | @cons text result texts results part parts =>
    obtain ⟨first, following, whole, visible, goesOn⟩ := part.visible
    have reads := part.reads _ (endsNumber_afterPart separates (Or.inl rfl) texts rest)
    have fewer := length_lt_afterPart separates ']' texts
    refine ⟨bytes layout.opening ++ (bytes text ++ (bytes (afterPart layout ']' texts) ++ rest)),
      ?_, ?_⟩
    · rw [bracketed_cons, bytes_cons, bytes_append, bytes_append]
      simp only [List.append_assoc]
      rfl
    · have enough : texts.length <
          (bytes layout.opening ++
            (bytes text ++ (bytes (afterPart layout ']' texts) ++ rest))).length := by
        simp only [List.length_append]
        omega
      have later := readItems_afterPart separates parts enough rest
      rw [whole, List.cons_append] at reads later ⊢
      rw [readItems, nextItem_first separates.opening visible goesOn, List.mapM_cons]
      exact reads.bind fun _ _ => later.bind fun _ _ => rfl

/-! ### Objects -/

variable {Member : Type} {readName : List UInt8 → Reading String}
  {readMember : List UInt8 → Reading Member}

/-- A member is read from its written form, whatever follows: first its name, then the colon, then
its value. -/
def ReadsMember (readName : List UInt8 → Reading String) (readMember : List UInt8 → Reading Member)
    (text : List Char) (member : String × Member) : Prop :=
  ∃ following, bytes text = ascii '"' :: following ∧ ∀ rest, EndsNumber rest →
    ∃ afterName afterColon, readName (following ++ rest) = .ok (member.1, afterName) ∧
      readColon afterName = .ok afterColon ∧ readMember afterColon = .ok (member.2, rest)

theorem nextMember_closing {blanks : List Char} (blank : Blank blanks) (isFirst : Bool)
    (rest : List UInt8) :
    nextMember isFirst (bytes blanks ++ ascii '\x7d' :: rest) = .ok (.closed rest) := by
  unfold nextMember
  rw [skipBlanks_append blank]
  rfl

theorem nextMember_first {blanks : List Char} (blank : Blank blanks) (rest : List UInt8) :
    nextMember true (bytes blanks ++ ascii '"' :: rest) = .ok (.another rest) := by
  unfold nextMember
  rw [skipBlanks_append blank]
  rfl

theorem nextMember_between (separates : layout.Separates) (rest : List UInt8) :
    nextMember false (bytes layout.between ++ ascii '"' :: rest) = .ok (.another rest) := by
  obtain ⟨before, after, between, blankBefore, blankAfter⟩ := separates.between
  rw [between, bytes_append, bytes_cons, List.append_assoc, List.append_assoc]
  have comma (bytes : List UInt8) :
      skipBlanks (String.utf8EncodeChar ',' ++ bytes) = ascii ',' :: bytes := rfl
  have notEnd : ascii ',' ≠ ascii '\x7d' := by decide
  have visible : isBlank (ascii '"') = false := rfl
  unfold nextMember
  rw [skipBlanks_append blankBefore, comma]
  simp only [if_neg notEnd, Bool.false_eq_true, if_false, if_true, skipBlanks_append blankAfter,
    skipBlanks_cons visible]

/-- The colon after a name is read, and only blanks are left before the value. -/
theorem Layout.Separates.readColon (separates : layout.Separates) :
    ∃ after, Blank after ∧ ∀ rest,
      Json.readColon (bytes layout.afterName ++ rest) = .ok (bytes after ++ rest) := by
  obtain ⟨before, after, afterName, blankBefore, blankAfter⟩ := separates.afterName
  refine ⟨after, blankAfter, fun rest => ?_⟩
  unfold Json.readColon
  rw [afterName, bytes_append, List.append_assoc, skipBlanks_append blankBefore]
  rfl

theorem readMembers_afterPart (separates : layout.Separates) {texts : List (List Char)}
    {members : List (String × Member)}
    (parts : List.Forall₂ (ReadsMember readName readMember) texts members) {limit : Nat}
    (enough : members.length < limit) (rest : List UInt8) :
    readMembers readName readMember limit false (bytes (afterPart layout '\x7d' texts) ++ rest) =
      .ok (members, rest) := by
  induction parts generalizing limit with
  | nil =>
    obtain ⟨limit, rfl⟩ := Nat.exists_eq_add_one_of_ne_zero (Nat.ne_of_gt enough)
    rw [readMembers, afterPart, List.flatMap_nil, List.nil_append, bytes_closing _ (Or.inr rfl),
      nextMember_closing separates.closing]
    rfl
  | @cons text member texts members part parts inductionHypothesis =>
    obtain ⟨limit, rfl⟩ :=
      Nat.exists_eq_add_one_of_ne_zero (Nat.ne_of_gt (Nat.zero_lt_of_lt enough))
    obtain ⟨following, whole, reads⟩ := part
    obtain ⟨afterName, afterColon, name, colon, value⟩ :=
      reads _ (endsNumber_afterPart separates (Or.inr rfl) texts rest)
    have later := inductionHypothesis (Nat.lt_of_succ_lt_succ enough)
    rw [readMembers, afterPart_cons, bytes_append, bytes_append, List.append_assoc,
      List.append_assoc, whole, List.cons_append, nextMember_between separates]
    simp only [bind, Except.bind, name, colon, value, later]

/-- An object is read from its written form if each of its members is. -/
theorem readMembers_bracketed (separates : layout.Separates) {texts : List (List Char)}
    {members : List (String × Member)}
    (parts : List.Forall₂ (ReadsMember readName readMember) texts members) (rest : List UInt8) :
    ∃ others, bytes (bracketed layout '\x7b' '\x7d' texts) ++ rest = ascii '\x7b' :: others ∧
      readMembers readName readMember (others.length + 1) true others = .ok (members, rest) := by
  cases parts with
  | nil => exact ⟨ascii '\x7d' :: rest, rfl, rfl⟩
  | @cons text member texts members part parts =>
    obtain ⟨following, whole, reads⟩ := part
    obtain ⟨afterName, afterColon, name, colon, value⟩ :=
      reads _ (endsNumber_afterPart separates (Or.inr rfl) texts rest)
    have fewer := length_lt_afterPart separates '\x7d' texts
    refine ⟨bytes layout.opening ++ (bytes text ++ (bytes (afterPart layout '\x7d' texts) ++ rest)),
      ?_, ?_⟩
    · rw [bracketed_cons, bytes_cons, bytes_append, bytes_append]
      simp only [List.append_assoc]
      rfl
    · have enough : members.length <
          (bytes layout.opening ++
            (bytes text ++ (bytes (afterPart layout '\x7d' texts) ++ rest))).length := by
        rw [← parts.length_eq]
        simp only [List.length_append]
        omega
      have later := readMembers_afterPart separates parts enough rest
      rw [whole, List.cons_append] at later ⊢
      rw [readMembers, nextMember_first separates.opening]
      simp only [bind, Except.bind, name, colon, value, later]

/-! ### Values -/

mutual

/-- How many levels of brackets a value has. -/
def Value.nesting : Value → Nat
  | .list items => nestingOfItems items + 1
  | .object members => nestingOfMembers members + 1
  | _ => 0

def nestingOfItems : List Value → Nat
  | [] => 0
  | item :: items => max item.nesting (nestingOfItems items)

def nestingOfMembers : List (String × Value) → Nat
  | [] => 0
  | (_, value) :: members => max value.nesting (nestingOfMembers members)

end

mutual

/-- Every number of a value can be kept by a reader. -/
def Value.IsReadable : Value → Prop
  | .number number => number.IsReadable
  | .list items => AreReadableItems items
  | .object members => AreReadableMembers members
  | _ => True

def AreReadableItems : List Value → Prop
  | [] => True
  | item :: items => item.IsReadable ∧ AreReadableItems items

def AreReadableMembers : List (String × Value) → Prop
  | [] => True
  | (_, value) :: members => value.IsReadable ∧ AreReadableMembers members

end

/-- A byte that numbers begin with. -/
def BeginsNumber (byte : UInt8) : Prop :=
  (byte = ascii '-' || isDigit byte) = true

/-- No other token begins like a number. -/
theorem BeginsNumber.ne_of_ne {byte other : UInt8} (begins : BeginsNumber byte)
    (different : (other = ascii '-' || isDigit other) = false) : byte ≠ other := by
  rintro rfl
  exact absurd (begins.symm.trans different) Bool.noConfusion

theorem BeginsNumber.isBlank_eq_false {byte : UInt8} (begins : BeginsNumber byte) :
    isBlank byte = false := by
  simp only [isBlank, Bool.or_eq_false_iff, decide_eq_false_iff_not]
  exact ⟨⟨⟨begins.ne_of_ne rfl, begins.ne_of_ne rfl⟩, begins.ne_of_ne rfl⟩, begins.ne_of_ne rfl⟩

theorem exists_bytes_numberText (number : Number) :
    ∃ first others, bytes (numberText number) = first :: others ∧ BeginsNumber first := by
  have unsigned (value : Nat) (more : List Char) :
      ∃ first others, bytes (Nat.toDigits 10 value ++ more) = first :: others ∧
        BeginsNumber first := by
    obtain ⟨first, others, whole, digit, _⟩ := exists_bytes_toDigits value
    have begins : BeginsNumber first := by rw [BeginsNumber, digit, Bool.or_true]
    exact ⟨first, others ++ bytes more, by rw [bytes_append, whole]; rfl, begins⟩
  cases number with
  | integer value =>
    cases value with
    | ofNat value =>
      have whole := unsigned value []
      rw [List.append_nil, ← toList_toString_natCast] at whole
      exact whole
    | negSucc value =>
      rw [numberText, toList_toString_negSucc]
      exact ⟨ascii '-', _, rfl, rfl⟩
  | decimal isNegative significand exponent =>
    cases isNegative with
    | true => exact ⟨ascii '-', _, rfl, rfl⟩
    | false =>
      have whole := unsigned significand ('e' :: (toString exponent).toList)
      rw [← Nat.toList_repr] at whole
      exact whole

/-- A text is read from its written form, as the tokens see it. -/
def TokenReaders.ReadsText (tokens : TokenReaders) (text seen : String) : Prop :=
  ∃ others, bytes (stringText text) = ascii '"' :: others ∧
    ∀ rest, tokens.string (others ++ rest) = .ok (seen, rest)

theorem readsText_keptTokens (text : String) : keptTokens.ReadsText text text :=
  readString_stringText text

variable {tokens : TokenReaders}

theorem readValue_null (levels : Nat) (rest : List UInt8) :
    readValue tokens levels (bytes ['n', 'u', 'l', 'l'] ++ rest) = .ok (.null, rest) := by
  rw [readValue.eq_def]
  rfl

theorem readValue_booleanText (value : Bool) (levels : Nat) (rest : List UInt8) :
    readValue tokens levels (bytes (booleanText value) ++ rest) = .ok (.boolean value, rest) := by
  rw [readValue.eq_def]
  cases value <;> rfl

theorem readValue_stringText {text seen : String} (readsText : tokens.ReadsText text seen)
    (levels : Nat) (rest : List UInt8) :
    readValue tokens levels (bytes (stringText text) ++ rest) = .ok (.string seen, rest) := by
  obtain ⟨others, whole, reads⟩ := readsText
  rw [whole, readValue.eq_def]
  show (tokens.string (others ++ rest)).map _ = _
  rw [reads rest]
  rfl

/-- A value that begins like a number is read as one. -/
theorem readValue_of_beginsNumber {first : UInt8} (begins : BeginsNumber first)
    (levels : Nat) (rest : List UInt8) :
    readValue tokens levels (first :: rest) =
      (tokens.number (first :: rest)).map fun (number, rest) => (.number number, rest) := by
  rw [readValue.eq_def]
  dsimp only
  rw [skipBlanks_cons begins.isBlank_eq_false]
  have notNull : first ≠ ascii 'n' := begins.ne_of_ne rfl
  have notTrue : first ≠ ascii 't' := begins.ne_of_ne rfl
  have notFalse : first ≠ ascii 'f' := begins.ne_of_ne rfl
  have notQuote : first ≠ ascii '"' := begins.ne_of_ne rfl
  simp only [if_neg notNull, if_neg notTrue, if_neg notFalse, if_neg notQuote,
    if_pos (show (_ || _) = true from begins)]

theorem readValue_numberText {number : Number} (readable : number.IsReadable) (levels : Nat)
    {rest : List UInt8} (ends : EndsNumber rest) :
    readValue keptTokens levels (bytes (numberText number) ++ rest) =
      .ok (.number number, rest) := by
  have reads : keptTokens.number (bytes (numberText number) ++ rest) = .ok (number, rest) :=
    readNumber_numberText readable ends
  obtain ⟨first, others, whole, begins⟩ := exists_bytes_numberText number
  rw [whole, List.cons_append] at reads ⊢
  rw [readValue_of_beginsNumber begins, reads]
  rfl

theorem readValue_list {layout : Layout} (separates : layout.Separates) {levels : Nat}
    {texts : List (List Char)} {items : List Value}
    (parts : List.Forall₂ (ReadsItem (readValue tokens levels)) texts (items.map .ok))
    (rest : List UInt8) :
    readValue tokens (levels + 1) (bytes (bracketed layout '[' ']' texts) ++ rest) =
      .ok (.list items, rest) := by
  obtain ⟨others, whole, reads⟩ := readItems_bracketed separates parts rest
  rw [mapM_map_ok] at reads
  rw [whole, readValue.eq_def]
  show (readItems (readValue tokens levels) (others.length + 1) true others).map _ = _
  rw [reads]
  rfl

theorem readValue_object {layout : Layout} (separates : layout.Separates) {levels : Nat}
    {texts : List (List Char)} {members : List (String × Value)}
    (parts : List.Forall₂ (ReadsMember tokens.string (readValue tokens levels)) texts members)
    (rest : List UInt8) :
    readValue tokens (levels + 1) (bytes (bracketed layout '\x7b' '\x7d' texts) ++ rest) =
      .ok (.object members, rest) := by
  obtain ⟨others, whole, reads⟩ := readMembers_bracketed separates parts rest
  rw [whole, readValue.eq_def]
  show (readMembers tokens.string (readValue tokens levels) (others.length + 1) true others).map
    _ = _
  rw [reads]
  rfl

/-- A list or an object begins with its bracket. -/
theorem exists_bytes_bracketed (layout : Layout) (left right : Char) (texts : List (List Char)) :
    ∃ following, bracketed layout left right texts = left :: following := by
  cases texts with
  | nil => exact ⟨[right], rfl⟩
  | cons text texts => exact ⟨_, bracketed_cons left right text texts⟩

/-- What the written form of a value begins with tells its kind. -/
def Value.Begins : Value → UInt8 → Prop
  | .null, first => first = ascii 'n'
  | .boolean value, first => first = ascii (if value then 't' else 'f')
  | .number _, first => BeginsNumber first
  | .string _, first => first = ascii '"'
  | .list _, first => first = ascii '['
  | .object _, first => first = ascii '\x7b'

theorem exists_bytes_valueText (layout : Nat → Layout) (level : Nat) (value : Value) :
    ∃ first others, bytes (valueText layout level value) = first :: others ∧
      value.Begins first := by
  cases value with
  | null => exact ⟨_, _, rfl, rfl⟩
  | boolean value => cases value <;> exact ⟨_, _, rfl, rfl⟩
  | number number => exact exists_bytes_numberText number
  | string text => exact ⟨ascii '"', _, rfl, rfl⟩
  | list items =>
    obtain ⟨following, whole⟩ :=
      exists_bytes_bracketed (layout level) '[' ']' (itemTexts layout (level + 1) items)
    exact ⟨_, bytes following, congrArg bytes whole, rfl⟩
  | object members =>
    obtain ⟨following, whole⟩ := exists_bytes_bracketed (layout level) '\x7b' '\x7d'
      (memberTexts layout (level + 1) (layout level).afterName members)
    exact ⟨_, bytes following, congrArg bytes whole, rfl⟩

/-- A value begins with neither a blank nor the end of a list. -/
theorem Value.Begins.visible {value : Value} {first : UInt8} (begins : value.Begins first) :
    isBlank first = false ∧ first ≠ ascii ']' := by
  cases value with
  | number number => exact ⟨begins.isBlank_eq_false, begins.ne_of_ne rfl⟩
  | boolean value => cases value <;> cases begins <;> decide
  | _ => cases begins; decide

/-- A value that is read from its written form is read as an item of a list. -/
theorem readsItem_of_reads {Item : Type} {readItem : List UInt8 → Reading Item}
    {layout : Nat → Layout} {level : Nat} {value : Value} {result : Except Cause Item}
    (reads : ∀ rest, EndsNumber rest →
      ComesTo (readItem (bytes (valueText layout level value) ++ rest)) rest result) :
    ReadsItem readItem (valueText layout level value) result := by
  obtain ⟨first, others, whole, begins⟩ := exists_bytes_valueText layout level value
  exact ⟨reads, first, others, whole, begins.visible⟩

/-- The name of a member and its colon are read, and only blanks are left before its value. -/
theorem readName_colon {layout : Layout} (separates : layout.Separates) {name seen : String}
    (readsName : tokens.ReadsText name seen) (text : List Char) :
    ∃ following after, Blank after ∧
      bytes (stringText name ++ layout.afterName ++ text) = ascii '"' :: following ∧
      ∀ rest, ∃ afterName, tokens.string (following ++ rest) = .ok (seen, afterName) ∧
        readColon afterName = .ok (bytes after ++ (bytes text ++ rest)) := by
  obtain ⟨after, blank, colon⟩ := separates.readColon
  obtain ⟨others, whole, readName⟩ := readsName
  refine ⟨others ++ (bytes layout.afterName ++ bytes text), after, blank, ?_, fun rest => ?_⟩
  · rw [List.append_assoc, bytes_append, bytes_append, whole]
    rfl
  · refine ⟨bytes layout.afterName ++ (bytes text ++ rest), ?_, colon _⟩
    rw [List.append_assoc, List.append_assoc, readName]

/-- A member is read if its name and its value are. -/
theorem readsMember_of_reads {layout : Layout} (separates : layout.Separates)
    {name seen : String} (readsName : tokens.ReadsText name seen) {text : List Char}
    {value : Value} {levels : Nat} (reads : ∀ rest, EndsNumber rest →
      readValue tokens levels (bytes text ++ rest) = .ok (value, rest)) :
    ReadsMember tokens.string (readValue tokens levels)
      (stringText name ++ layout.afterName ++ text) (seen, value) := by
  obtain ⟨following, after, blank, whole, readName⟩ := readName_colon separates readsName text
  refine ⟨following, whole, fun rest ends => ?_⟩
  obtain ⟨afterName, named, colon⟩ := readName rest
  exact ⟨afterName, _, named, colon, by rw [readValue_blanks blank, reads rest ends]⟩

mutual

/-- A value is read back from its written form, whatever follows that does not continue a number. -/
theorem readValue_valueText {layout : Nat → Layout}
    (separates : ∀ level, (layout level).Separates) (value : Value) (readable : value.IsReadable)
    {levels : Nat} (fits : value.nesting ≤ levels) (level : Nat) (rest : List UInt8)
    (ends : EndsNumber rest) :
    readValue keptTokens levels (bytes (valueText layout level value) ++ rest) =
      .ok (value, rest) := by
  cases value with
  | null => exact readValue_null levels rest
  | boolean value => exact readValue_booleanText value levels rest
  | number number => exact readValue_numberText readable levels ends
  | string text => exact readValue_stringText (readsText_keptTokens text) levels rest
  | list items =>
    obtain ⟨inner, rfl⟩ := Nat.exists_eq_add_one_of_ne_zero
      (Nat.ne_of_gt (Nat.lt_of_lt_of_le (Nat.succ_pos _) fits))
    exact readValue_list (separates level)
      (readsItems_itemTexts separates items readable (Nat.le_of_succ_le_succ fits) (level + 1)) rest
  | object members =>
    obtain ⟨inner, rfl⟩ := Nat.exists_eq_add_one_of_ne_zero
      (Nat.ne_of_gt (Nat.lt_of_lt_of_le (Nat.succ_pos _) fits))
    exact readValue_object (separates level)
      (readsMembers_memberTexts separates (separates level) members readable
        (Nat.le_of_succ_le_succ fits) (level + 1)) rest

theorem readsItems_itemTexts {layout : Nat → Layout}
    (separates : ∀ level, (layout level).Separates) (items : List Value)
    (readable : AreReadableItems items) {levels : Nat} (fits : nestingOfItems items ≤ levels)
    (level : Nat) :
    List.Forall₂ (ReadsItem (readValue keptTokens levels)) (itemTexts layout level items)
      (items.map .ok) := by
  cases items with
  | nil => exact List.Forall₂.nil
  | cons item items =>
    obtain ⟨first, others⟩ := readable
    have reads := readValue_valueText separates item first
      (Nat.le_trans (Nat.le_max_left _ _) fits) level
    exact List.Forall₂.cons (readsItem_of_reads reads)
      (readsItems_itemTexts separates items others (Nat.le_trans (Nat.le_max_right _ _) fits) level)

theorem readsMembers_memberTexts {layout : Nat → Layout}
    (separates : ∀ level, (layout level).Separates) {around : Layout} (names : around.Separates)
    (members : List (String × Value)) (readable : AreReadableMembers members) {levels : Nat}
    (fits : nestingOfMembers members ≤ levels) (level : Nat) :
    List.Forall₂ (ReadsMember readString (readValue keptTokens levels))
      (memberTexts layout level around.afterName members) members := by
  cases members with
  | nil => exact List.Forall₂.nil
  | cons member members =>
    obtain ⟨name, value⟩ := member
    obtain ⟨first, others⟩ := readable
    have reads := readValue_valueText separates value first
      (Nat.le_trans (Nat.le_max_left _ _) fits) level
    exact List.Forall₂.cons (readsMember_of_reads names (readsText_keptTokens name) reads)
      (readsMembers_memberTexts separates names members others
        (Nat.le_trans (Nat.le_max_right _ _) fits) level)

end

/-- A document is decoded to the value it was encoded from. -/
theorem parse_valueText {layout : Nat → Layout} (separates : ∀ level, (layout level).Separates)
    {value : Value} (readable : value.IsReadable) (fits : value.nesting ≤ nestingLimit) :
    parse (String.ofList (valueText layout 0 value)) = .ok value := by
  have reads := readValue_valueText separates value readable fits 0 [] nofun
  rw [List.append_nil] at reads
  rw [parse, Text.Utf8.encode_ofList, readDocument, reads]
  rfl

end CodeNavigator.Json
