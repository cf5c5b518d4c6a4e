/-
This file proves that a JSON value is passed over from its written form. Passing over looks at less
than reading: it neither decodes strings nor weighs numbers, and it is not stopped by deep brackets,
since a written form is always longer than its brackets are deep. So no value has to be ruled out.
-/

import CodeNavigator.Proofs.Json.RoundTrip

namespace CodeNavigator.Json

open Text.Utf8 (bytes bytes_append bytes_cons)

/-! ### Strings -/

theorem passContent_plain {content : List UInt8}
    (plain : ∀ byte ∈ content, byte ≠ ascii '"' ∧ byte ≠ ascii '\\' ∧ ¬ byte < 0x20)
    (rest : List UInt8) : passContent .plain (content ++ rest) = passContent .plain rest := by
  induction content with
  | nil => rfl
  | cons byte others inductionHypothesis =>
    obtain ⟨notQuote, notBackslash, notControl⟩ := plain byte List.mem_cons_self
    have later := inductionHypothesis fun other member =>
      plain other (List.mem_cons_of_mem _ member)
    rw [List.cons_append]
    simp only [passContent, if_neg notQuote, if_neg notBackslash, if_neg notControl, later]

/-- The machine passes over a character where it stands in a string. -/
theorem passContent_escapedCharacter (character : Char) (rest : List UInt8) :
    passContent .plain (bytes (escapedCharacter character) ++ rest) = passContent .plain rest := by
  unfold escapedCharacter
  split
  · rfl
  · rfl
  · rfl
  · rfl
  · rfl
  · rfl
  · rfl
  · next other notQuote notBackslash _ _ _ _ _ =>
    split
    · next control =>
      rw [bytes_control character.toNat control]
      have digits : (hexCode? (controlDigits character.toNat)).isSome = true := by
        rw [hexCode?_controlDigits character.toNat control]
        rfl
      show (if (hexCode? (controlDigits character.toNat)).isSome then passContent .plain rest
        else _) = _
      rw [if_pos digits]
    · next printable =>
      have single : bytes [character] = String.utf8EncodeChar character := by
        rw [bytes_cons]
        exact List.append_nil _
      rw [single]
      exact passContent_plain
        (fun _ => plain_of_mem_utf8EncodeChar notQuote notBackslash printable) rest

theorem passContent_escaped (characters : List Char) (rest : List UInt8) :
    passContent .plain (bytes (characters.flatMap escapedCharacter ++ ['"']) ++ rest) =
      .ok rest := by
  induction characters with
  | nil => rfl
  | cons character others inductionHypothesis =>
    rw [List.flatMap_cons, List.append_assoc, bytes_append, List.append_assoc,
      passContent_escapedCharacter, inductionHypothesis]

theorem readsText_passedTokens (text : String) : passedTokens.ReadsText text "" := by
  refine ⟨bytes (text.toList.flatMap escapedCharacter ++ ['"']), rfl, fun rest => ?_⟩
  show (passContent .plain _).map _ = _
  rw [passContent_escaped]
  rfl

/-! ### Numbers -/

/-- The digits of a number are passed over up to their end. -/
theorem passDigits_toDigits (number : Nat) {rest : List UInt8} (ends : EndsDigits rest) :
    passDigits (bytes (Nat.toDigits 10 number) ++ rest) = .ok rest := by
  obtain ⟨first, others, whole, isDigitFirst, isDigitOthers, _⟩ := exists_bytes_toDigits number
  rw [whole, List.cons_append]
  unfold passDigits
  simp only [isDigitFirst, if_true, (Text.takeWhile_append_of_stops isDigitOthers ends).2]

/-- The whole digits of a number are passed over, and what may follow them after that. -/
theorem passNumber_toDigits (isNegative : Bool) (number : Nat) {rest : List UInt8}
    (ends : EndsDigits rest) :
    passNumber ((if isNegative then [ascii '-'] else []) ++
        (bytes (Nat.toDigits 10 number) ++ rest)) =
      (passAfterWhole rest).map fun rest => (.integer 0, rest) := by
  have passes := passDigits_toDigits number ends
  obtain ⟨first, others, whole, isDigitFirst, _, zero⟩ := exists_bytes_toDigits number
  have notMinus := (ne_sign_of_isDigit isDigitFirst).2
  rw [whole, List.cons_append] at passes ⊢
  have unsigned : passNumber ((if isNegative then [ascii '-'] else []) ++
      first :: (others ++ rest)) = passNumber (first :: (others ++ rest)) := by
    cases isNegative
    · rfl
    · simp [passNumber, notMinus]
  rw [unsigned]
  unfold passNumber
  simp only [if_neg notMinus]
  congr 1
  by_cases leads : first = ascii '0'
  · -- A leading zero stands alone, so what follows it is no digit.
    rw [zero leads, List.nil_append] at passes ⊢
    cases rest with
    | nil => rw [passes]; rfl
    | cons second more => simp only [if_pos leads, ends second rfl, Bool.false_eq_true, if_false]
  · cases tail : others ++ rest with
    | nil => rw [tail] at passes; rw [passes]; rfl
    | cons second more => rw [tail] at passes; simp only [if_neg leads, passes]; rfl

theorem passExponent_toString (exponent : Int) {rest : List UInt8} (ends : EndsDigits rest) :
    passExponent (ascii 'e' :: (bytes (toString exponent).toList ++ rest)) = .ok rest := by
  cases exponent with
  | ofNat number =>
    have passes := passDigits_toDigits number ends
    obtain ⟨first, others, whole, digit, _⟩ := exists_bytes_toDigits number
    obtain ⟨notPlus, notMinus⟩ := ne_sign_of_isDigit digit
    rw [whole, List.cons_append] at passes
    rw [Int.ofNat_eq_natCast, toList_toString_natCast, whole, List.cons_append]
    unfold passExponent
    simp only [decide_true, Bool.true_or, if_true, notPlus, notMinus, decide_false, Bool.or_self,
      Bool.false_eq_true, if_false, passes]
  | negSucc number =>
    rw [toList_toString_negSucc, bytes_cons]
    exact passDigits_toDigits (number + 1) ends

/-- A number is passed over, whatever its size. -/
theorem passNumber_numberText (number : Number) {rest : List UInt8} (ends : EndsNumber rest) :
    passNumber (bytes (numberText number) ++ rest) = .ok (.integer 0, rest) := by
  have ended : passAfterWhole rest = .ok rest := by
    cases rest with
    | nil => rfl
    | cons byte others =>
      obtain ⟨_, notPoint, notSmall, notLarge⟩ := ends byte rfl
      simp [passAfterWhole, passExponent, notPoint, notSmall, notLarge]
  cases number with
  | integer value =>
    cases value with
    | ofNat number =>
      have passes := passNumber_toDigits false number ends.endsDigits
      rw [ended] at passes
      rw [numberText, Int.ofNat_eq_natCast, toList_toString_natCast]
      exact passes
    | negSucc number =>
      have passes := passNumber_toDigits true (number + 1) ends.endsDigits
      rw [ended] at passes
      rw [numberText, toList_toString_negSucc, bytes_cons]
      exact passes
  | decimal isNegative significand exponent =>
    have exponentEnds : EndsDigits (ascii 'e' :: (bytes (toString exponent).toList ++ rest)) := by
      rintro byte ⟨⟩
      rfl
    have passes := passNumber_toDigits isNegative significand exponentEnds
    have exponentPasses : passAfterWhole (ascii 'e' :: (bytes (toString exponent).toList ++ rest)) =
        .ok rest := passExponent_toString exponent ends.endsDigits
    have text : bytes (numberText (.decimal isNegative significand exponent)) ++ rest =
        (if isNegative then [ascii '-'] else []) ++ (bytes (Nat.toDigits 10 significand) ++
          ascii 'e' :: (bytes (toString exponent).toList ++ rest)) := by
      rw [numberText, Nat.toString_eq_repr, Nat.toList_repr, bytes_append, bytes_append]
      cases isNegative <;> simp only [List.append_assoc] <;> rfl
    rw [text, passes, exponentPasses]
    rfl

/-! ### Values -/

theorem passValue_number (number : Number) (levels : Nat) {rest : List UInt8}
    (ends : EndsNumber rest) :
    readValue passedTokens levels (bytes (numberText number) ++ rest) =
      .ok (.number (.integer 0), rest) := by
  have passes : passedTokens.number (bytes (numberText number) ++ rest) = .ok (.integer 0, rest) :=
    passNumber_numberText number ends
  obtain ⟨first, others, whole, begins⟩ := exists_bytes_numberText number
  rw [whole, List.cons_append] at passes ⊢
  rw [readValue_of_beginsNumber begins, passes]
  rfl

mutual

/-- A value is passed over up to its end. Nothing of it is kept but the shape of its brackets. -/
theorem exists_passed_valueText {layout : Nat → Layout}
    (separates : ∀ level, (layout level).Separates) (value : Value) {levels : Nat}
    (fits : value.nesting ≤ levels) (level : Nat) :
    ∃ passed, ∀ rest, EndsNumber rest →
      readValue passedTokens levels (bytes (valueText layout level value) ++ rest) =
        .ok (passed, rest) := by
  cases value with
  | null => exact ⟨_, fun rest _ => readValue_null levels rest⟩
  | boolean value => exact ⟨_, fun rest _ => readValue_booleanText value levels rest⟩
  | number number => exact ⟨_, fun _ ends => passValue_number number levels ends⟩
  | string text =>
    exact ⟨_, fun rest _ => readValue_stringText (readsText_passedTokens text) levels rest⟩
  | list items =>
    obtain ⟨inner, rfl⟩ := Nat.exists_eq_add_one_of_ne_zero
      (Nat.ne_of_gt (Nat.lt_of_lt_of_le (Nat.succ_pos _) fits))
    obtain ⟨passed, parts⟩ :=
      exists_passed_itemTexts separates items (Nat.le_of_succ_le_succ fits) (level + 1)
    exact ⟨_, fun rest _ => readValue_list (separates level) parts rest⟩
  | object members =>
    obtain ⟨inner, rfl⟩ := Nat.exists_eq_add_one_of_ne_zero
      (Nat.ne_of_gt (Nat.lt_of_lt_of_le (Nat.succ_pos _) fits))
    obtain ⟨passed, parts⟩ := exists_passed_memberTexts separates (separates level) members
      (Nat.le_of_succ_le_succ fits) (level + 1)
    exact ⟨_, fun rest _ => readValue_object (separates level) parts rest⟩

theorem exists_passed_itemTexts {layout : Nat → Layout}
    (separates : ∀ level, (layout level).Separates) (items : List Value) {levels : Nat}
    (fits : nestingOfItems items ≤ levels) (level : Nat) :
    ∃ passed : List Value, List.Forall₂ (ReadsItem (readValue passedTokens levels))
      (itemTexts layout level items) (passed.map .ok) := by
  cases items with
  | nil => exact ⟨[], List.Forall₂.nil⟩
  | cons item items =>
    obtain ⟨first, reads⟩ :=
      exists_passed_valueText separates item (Nat.le_trans (Nat.le_max_left _ _) fits) level
    obtain ⟨others, parts⟩ :=
      exists_passed_itemTexts separates items (Nat.le_trans (Nat.le_max_right _ _) fits) level
    exact ⟨first :: others, List.Forall₂.cons (readsItem_of_reads reads) parts⟩

theorem exists_passed_memberTexts {layout : Nat → Layout}
    (separates : ∀ level, (layout level).Separates) {around : Layout} (names : around.Separates)
    (members : List (String × Value)) {levels : Nat} (fits : nestingOfMembers members ≤ levels)
    (level : Nat) :
    ∃ passed, List.Forall₂ (ReadsMember passedTokens.string (readValue passedTokens levels))
      (memberTexts layout level around.afterName members) passed := by
  cases members with
  | nil => exact ⟨[], List.Forall₂.nil⟩
  | cons member members =>
    obtain ⟨name, value⟩ := member
    obtain ⟨first, reads⟩ :=
      exists_passed_valueText separates value (Nat.le_trans (Nat.le_max_left _ _) fits) level
    obtain ⟨others, parts⟩ := exists_passed_memberTexts separates names members
      (Nat.le_trans (Nat.le_max_right _ _) fits) level
    exact ⟨_, List.Forall₂.cons (readsMember_of_reads names (readsText_passedTokens name) reads)
      parts⟩

end

/-! ### Depth -/

theorem length_lt_bracketed {layout : Layout} {left right : Char} {text : List Char}
    {texts : List (List Char)} (member : text ∈ texts) :
    text.length < (bracketed layout left right texts).length := by
  obtain ⟨before, after, rfl⟩ := List.append_of_mem member
  cases before with
  | nil =>
    rw [List.nil_append, bracketed_cons]
    simp only [List.length_cons, List.length_append]
    omega
  | cons first before =>
    rw [List.cons_append, bracketed_cons, afterPart]
    simp only [List.length_cons, List.length_append, List.flatMap_append, List.flatMap_cons]
    omega

theorem length_bracketed_pos (layout : Layout) (left right : Char) (texts : List (List Char)) :
    0 < (bracketed layout left right texts).length := by
  obtain ⟨following, whole⟩ := exists_bytes_bracketed layout left right texts
  rw [whole]
  exact Nat.succ_pos _

mutual

/-- Every level of brackets takes a character. -/
theorem nesting_le_length (layout : Nat → Layout) (level : Nat) (value : Value) :
    value.nesting ≤ (valueText layout level value).length := by
  cases value with
  | list items =>
    exact nestingOfItems_lt (length_bracketed_pos _ _ _ _) fun _ member =>
      length_lt_bracketed member
  | object members =>
    exact nestingOfMembers_lt (length_bracketed_pos _ _ _ _) fun _ member =>
      length_lt_bracketed member
  | _ => exact Nat.zero_le _

theorem nestingOfItems_lt {layout : Nat → Layout} {level : Nat} {items : List Value} {bound : Nat}
    (positive : 0 < bound) (below : ∀ text ∈ itemTexts layout level items, text.length < bound) :
    nestingOfItems items < bound := by
  cases items with
  | nil => exact positive
  | cons item items =>
    have first := below _ List.mem_cons_self
    refine Nat.max_lt.mpr ⟨Nat.lt_of_le_of_lt (nesting_le_length layout level item) first, ?_⟩
    exact nestingOfItems_lt positive fun text member => below text (List.mem_cons_of_mem _ member)

theorem nestingOfMembers_lt {layout : Nat → Layout} {level : Nat} {afterName : List Char}
    {members : List (String × Value)} {bound : Nat} (positive : 0 < bound)
    (below : ∀ text ∈ memberTexts layout level afterName members, text.length < bound) :
    nestingOfMembers members < bound := by
  cases members with
  | nil => exact positive
  | cons member members =>
    obtain ⟨name, value⟩ := member
    have first := below _ List.mem_cons_self
    have shorter := nesting_le_length layout level value
    simp only [List.length_append] at first
    refine Nat.max_lt.mpr ⟨by omega, ?_⟩
    exact nestingOfMembers_lt positive fun text member =>
      below text (List.mem_cons_of_mem _ member)

end

/-- A value is passed over from its written form, however deep its brackets nest. -/
theorem passValue_valueText {layout : Nat → Layout} (separates : ∀ level, (layout level).Separates)
    (value : Value) (level : Nat) {blanks : List Char} (blank : Blank blanks) {rest : List UInt8}
    (ends : EndsNumber rest) :
    passValue (bytes blanks ++ (bytes (valueText layout level value) ++ rest)) = .ok rest := by
  have characters := nesting_le_length layout level value
  have encoded := length_le_bytes (valueText layout level value)
  have fits : value.nesting ≤
      (bytes blanks ++ (bytes (valueText layout level value) ++ rest)).length := by
    simp only [List.length_append]
    omega
  obtain ⟨passed, reads⟩ := exists_passed_valueText separates value fits level
  rw [passValue, readValue_blanks blank, reads rest ends]
  rfl

end CodeNavigator.Json
