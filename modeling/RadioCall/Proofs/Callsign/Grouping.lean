/-
This file shows how little the grouping of digits matters to a callsign. A numeral adds the
digits that it is written with, so behind the first word numerals may be cut and joined
anywhere, and the text of a valid callsign is read as the callsign again. Only in front the
grouping counts: the first word is a digit if it is the word for one, and a numeral of several
digits is kept there as it stands.
-/

import RadioCall.Proofs.Callsign
import RadioCall.Proofs.Utterance.Fields

namespace RadioCall

/-! ### Numerals of digits -/

/-- The numeral that is written with some digits. -/
def numeralOf (digits : List Digit) : Text :=
  digits.flatMap digitNumeral

theorem digitNumeral_eq (digit : Digit) : digitNumeral digit = [digit.val.digitChar] :=
  decimal_of_lt digit.isLt

theorem numeralOf_cons (digit : Digit) (rest : List Digit) :
    numeralOf (digit :: rest) = digit.val.digitChar :: numeralOf rest := by
  rw [numeralOf, List.flatMap_cons, digitNumeral_eq]
  rfl

theorem numeralOf_append (first second : List Digit) :
    numeralOf (first ++ second) = numeralOf first ++ numeralOf second :=
  List.flatMap_append

theorem length_numeralOf (digits : List Digit) : (numeralOf digits).length = digits.length := by
  induction digits with
  | nil => rfl
  | cons digit rest ih => rw [numeralOf_cons, List.length_cons, List.length_cons, ih]

/-- A text of plain digit characters is a numeral. -/
theorem exists_eq_numeralOf {token : Text} (plain : ∀ character ∈ token, character.isDigit) :
    ∃ digits, token = numeralOf digits := by
  induction token with
  | nil => exact ⟨[], rfl⟩
  | cons character rest ih =>
    obtain ⟨isDigit, plainRest⟩ := List.forall_mem_cons.mp plain
    obtain ⟨digits, rfl⟩ := ih plainRest
    have bounds : 48 ≤ character.toNat ∧ character.toNat ≤ 57 := by
      simpa [Char.isDigit, UInt32.le_iff_toNat_le] using isDigit
    have isCharacter : ∀ digit : Digit, digit.val.digitChar = Char.ofNat (48 + digit.val) := by
      decide
    refine ⟨⟨character.toNat - 48, by omega⟩ :: digits, ?_⟩
    rw [numeralOf_cons, isCharacter, Nat.add_sub_cancel' bounds.1, Char.ofNat_toNat]

theorem isWord_numeralOf {digits : List Digit} (nonempty : digits ≠ []) :
    IsWord (numeralOf digits) where
  nonempty := by
    rw [← List.length_pos_iff, length_numeralOf]
    exact List.length_pos_iff.mpr nonempty
  unbroken := by
    have unbroken : ∀ digit, (digitNumeral digit).all fun character => !isBlank character := by
      decide
    intro character member
    obtain ⟨digit, _, inNumeral⟩ := List.mem_flatMap.mp member
    simpa using List.all_eq_true.mp (unbroken digit) character inNumeral

theorem isWord_digitNumeral (digit : Digit) : IsWord (digitNumeral digit) := by
  have single := @isWord_numeralOf [digit] (List.cons_ne_nil _ _)
  rwa [numeralOf, List.flatMap_singleton] at single

theorem isNumeral_numeralOf {digits : List Digit} (nonempty : digits ≠ []) :
    isNumeral (numeralOf digits) := by
  have decimals : ∀ digit, (digitNumeral digit).all isDecimalDigit := by decide
  rw [isNumeral, Bool.and_eq_true, List.all_eq_true]
  refine ⟨by simpa using (isWord_numeralOf nonempty).nonempty, fun character member => ?_⟩
  obtain ⟨digit, _, inNumeral⟩ := List.mem_flatMap.mp member
  exact List.all_eq_true.mp (decimals digit) character inNumeral

namespace Vocabulary

/-- A numeral of several digits is no digit word of the standard vocabulary. -/
theorem standard_digit?_numeralOf {digits : List Digit} (several : 1 < digits.length) :
    standard.digit? (numeralOf digits) = none := by
  have nonempty : digits ≠ [] := List.ne_nil_of_length_pos (Nat.zero_lt_of_lt several)
  have long : isLongNumeral (numeralOf digits) := by
    rw [isLongNumeral, isNumeral_numeralOf nonempty, Bool.true_and, length_numeralOf]
    exact decide_eq_true several
  simpa only [isDigitWord, Option.not_isSome_iff_eq_none] using standard_hasPlainDigits.long _ long

theorem standard_characterDigits_numeralOf (digits : List Digit) :
    standard.characterDigits (numeralOf digits) = ⟨digits, true⟩ := by
  induction digits with
  | nil => rfl
  | cons digit rest ih =>
    rw [numeralOf_cons, characterDigits, ← digitNumeral_eq, standard_digit?_digitNumeral, ih]

/-- A numeral adds the digits that it is written with. -/
theorem standard_leadingDigits_numeralOf (digits : List Digit) :
    standard.leadingDigits (numeralOf digits) = ⟨digits, true⟩ := by
  rw [leadingDigits]
  cases spelled : standard.digit? (numeralOf digits) with
  | none => exact standard_characterDigits_numeralOf digits
  | some digit =>
    cases digits with
    | nil => cases spelled
    | cons first others =>
      cases others with
      | nil =>
        rw [numeralOf, List.flatMap_singleton, standard_digit?_digitNumeral] at spelled
        rw [Option.some.inj spelled]
      | cons second rest =>
        rw [standard_digit?_numeralOf (by simp)] at spelled
        cases spelled

/-! ### Numerals behind the first word -/

theorem callsignDigits_cons_of_leadingDigits {vocabulary : Vocabulary} {token : Text}
    {digits : List Digit} (leading : vocabulary.leadingDigits token = ⟨digits, true⟩)
    (rest : List Text) :
    vocabulary.callsignDigits (token :: rest) = digits ++ vocabulary.callsignDigits rest := by
  rw [callsignDigits, leading]
  rfl

/-- Numerals in a row count as the one that is written when they are joined. -/
theorem callsignDigits_numerals_append {front : List Text}
    (plain : ∀ token ∈ front, ∀ character ∈ token, character.isDigit) (rest : List Text) :
    standard.callsignDigits (front ++ rest) = standard.callsignDigits (front.flatten :: rest) := by
  have joined : ∃ digits, front.flatten = numeralOf digits ∧
      standard.callsignDigits (front ++ rest) = digits ++ standard.callsignDigits rest := by
    induction front with
    | nil => exact ⟨[], rfl, rfl⟩
    | cons token others ih =>
      obtain ⟨plainToken, plainOthers⟩ := List.forall_mem_cons.mp plain
      obtain ⟨digits, rfl⟩ := exists_eq_numeralOf plainToken
      obtain ⟨more, isJoined, areDigits⟩ := ih plainOthers
      refine ⟨digits ++ more, ?_, ?_⟩
      · rw [List.flatten_cons, isJoined, numeralOf_append]
      · rw [List.cons_append,
          callsignDigits_cons_of_leadingDigits (standard_leadingDigits_numeralOf digits),
          areDigits, List.append_assoc]
  obtain ⟨digits, isJoined, areDigits⟩ := joined
  rw [areDigits, isJoined,
    callsignDigits_cons_of_leadingDigits (standard_leadingDigits_numeralOf digits)]

/-! ### Reading a callsign again -/

theorem standard_callsignDigits_map_digitNumeral (digits : List Digit) :
    standard.callsignDigits (digits.map digitNumeral) = digits := by
  have spells : ∀ entry ∈ digits.map fun digit => (digitNumeral digit, digit),
      standard.digit? entry.1 = some entry.2 := by
    intro entry member
    obtain ⟨digit, _, rfl⟩ := List.mem_map.mp member
    exact standard_digit?_digitNumeral digit
  have read := callsignDigits_of_spells spells
  rw [List.map_map, List.map_map] at read
  exact read.trans (List.map_id digits)

theorem words_sentence_cons_digits {word : Text} (isWord : IsWord word) (digits : List Digit) :
    words (sentence (word :: digits.map digitNumeral)) = word :: digits.map digitNumeral := by
  refine words_sentence (List.forall_mem_cons.mpr ⟨isWord, fun token member => ?_⟩)
  obtain ⟨digit, _, rfl⟩ := List.mem_map.mp member
  exact isWord_digitNumeral digit

/-- The text of a valid callsign is read as the callsign again. -/
theorem decodeCallsign_words_text {heard : List Text} (areWords : ∀ token ∈ heard, IsWord token)
    (valid : (standard.decodeCallsign heard).isValid) :
    standard.decodeCallsign (words (standard.decodeCallsign heard).text) =
      standard.decodeCallsign heard := by
  cases heard with
  | nil => cases valid
  | cons first rest =>
    rw [decodeCallsign]
    cases spelled : standard.digit? first with
    | some digit =>
      simp only [List.map_cons]
      rw [words_sentence_cons_digits (isWord_digitNumeral digit), decodeCallsign,
        standard_digit?_digitNumeral, standard_callsignDigits_map_digitNumeral]
      rfl
    | none =>
      simp only []
      rw [words_sentence_cons_digits (areWords first List.mem_cons_self), decodeCallsign,
        spelled, standard_callsignDigits_map_digitNumeral]

/-- A callsign has one form: the text of a valid one is read as the same callsign, and it does
not matter how the digits behind the first word are divided into numerals. -/
theorem decodeCallsign_hasOneForm :
    (∀ segment callsign, standard.decodeCallsign (words segment) = ⟨callsign, true⟩ →
      standard.decodeCallsign (words callsign) = ⟨callsign, true⟩) ∧
    ∀ (first second word : Text) (front others rest : List Text),
      words first = word :: (front ++ rest) → words second = word :: (others ++ rest) →
        (∀ token ∈ front ++ others, ∀ character ∈ token, character.isDigit) →
          front.flatten = others.flatten →
            standard.decodeCallsign (words first) = standard.decodeCallsign (words second) := by
  constructor
  · intro segment callsign decoded
    have again := @decodeCallsign_words_text (words segment) (fun _ => isWord_of_mem_words)
      (congrArg Callsign.isValid decoded)
    rwa [decoded] at again
  · intro first second word front others rest isFirst isSecond plain sameDigits
    obtain ⟨plainFront, plainOthers⟩ := List.forall_mem_append.mp plain
    rw [isFirst, isSecond, decodeCallsign_cons_eq_iff, callsignDigits_numerals_append plainFront,
      callsignDigits_numerals_append plainOthers, sameDigits]

/-- A callsign whose last word is cut off, and the same digits in other numerals. -/
theorem decodeCallsign_hasOneForm_raven :
    (standard.decodeCallsign (words " raven niner 14x 2".toList) = ⟨"raven 9 1 4".toList, true⟩ ∧
      standard.decodeCallsign (words "raven 9 1 4".toList) = ⟨"raven 9 1 4".toList, true⟩) ∧
    let first := "raven 14 0 over".toList
    let second := "raven  1\t40 over".toList
    let front := ["14".toList, "0".toList]
    let others := ["1".toList, "40".toList]
    let rest := ["over".toList]
    words first = "raven".toList :: (front ++ rest) ∧
      words second = "raven".toList :: (others ++ rest) ∧
        (∀ token ∈ front ++ others, ∀ character ∈ token, character.isDigit) ∧
          front.flatten = others.flatten ∧
            standard.decodeCallsign (words first) = standard.decodeCallsign (words second) := by
  have decoded : standard.decodeCallsign (words " raven niner 14x 2".toList) =
      ⟨"raven 9 1 4".toList, true⟩ := by decide
  have isFirst : words "raven 14 0 over".toList =
      "raven".toList :: (["14".toList, "0".toList] ++ ["over".toList]) := by decide
  have isSecond : words "raven  1\t40 over".toList =
      "raven".toList :: (["1".toList, "40".toList] ++ ["over".toList]) := by decide
  have numerals : ∀ token ∈ ["14".toList, "0".toList] ++ ["1".toList, "40".toList],
      token.all Char.isDigit := by decide
  have plain : ∀ token ∈ ["14".toList, "0".toList] ++ ["1".toList, "40".toList],
      ∀ character ∈ token, character.isDigit := fun token member =>
    List.all_eq_true.mp (numerals token member)
  exact ⟨⟨decoded, decodeCallsign_hasOneForm.1 _ _ decoded⟩, isFirst, isSecond, plain, rfl,
    decodeCallsign_hasOneForm.2 _ _ _ _ _ _ isFirst isSecond plain rfl⟩

/-! ### Digits alone -/

/-- Whether a token is a way to write digits: a word for one, or the numeral of several. -/
def SpellsDigits (vocabulary : Vocabulary) (token : Text) (digits : List Digit) : Prop :=
  (∃ digit, digits = [digit] ∧ vocabulary.digit? token = some digit) ∨
    (1 < digits.length ∧ token = numeralOf digits)

theorem SpellsDigits.isWord {token : Text} {digits : List Digit}
    (spells : standard.SpellsDigits token digits) : IsWord token := by
  have listed : ∀ entry ∈ standard.digits, IsWord entry.1 := by decide
  rcases spells with ⟨digit, rfl, isDigit⟩ | ⟨several, rfl⟩
  · exact listed _ (mem_digits_of_digit? isDigit)
  · exact isWord_numeralOf (List.ne_nil_of_length_pos (Nat.zero_lt_of_lt several))

theorem SpellsDigits.leadingDigits {token : Text} {digits : List Digit}
    (spells : standard.SpellsDigits token digits) :
    standard.leadingDigits token = ⟨digits, true⟩ := by
  rcases spells with ⟨digit, rfl, isDigit⟩ | ⟨several, rfl⟩
  · rw [Vocabulary.leadingDigits, isDigit]
  · exact standard_leadingDigits_numeralOf digits

theorem SpellsDigits.digits_ne_nil {vocabulary : Vocabulary} {token : Text} {digits : List Digit}
    (spells : vocabulary.SpellsDigits token digits) : digits ≠ [] := by
  rcases spells with ⟨digit, rfl, _⟩ | ⟨several, _⟩
  · exact List.cons_ne_nil _ _
  · exact List.ne_nil_of_length_pos (Nat.zero_lt_of_lt several)

theorem SpellsDigits.eq_numeralOf {vocabulary : Vocabulary} {token : Text} {digits : List Digit}
    (spells : vocabulary.SpellsDigits token digits) (several : 1 < digits.length) :
    token = numeralOf digits := by
  rcases spells with ⟨digit, rfl, _⟩ | ⟨_, isNumeral⟩
  · exact absurd several (Nat.lt_irrefl 1)
  · exact isNumeral

/-- A token in front of a callsign is a digit only if it is a word for one. -/
theorem SpellsDigits.digit?_eq {token : Text} {digits : List Digit}
    (spells : standard.SpellsDigits token digits) :
    standard.digit? token = if digits.length = 1 then digits.head? else none := by
  rcases spells with ⟨digit, rfl, isDigit⟩ | ⟨several, rfl⟩
  · exact isDigit
  · rw [if_neg (Nat.ne_of_gt several), standard_digit?_numeralOf several]

theorem callsignDigits_of_spellsDigits {written : List (Text × List Digit)}
    (spells : ∀ entry ∈ written, standard.SpellsDigits entry.1 entry.2) :
    standard.callsignDigits (written.map Prod.fst) = written.flatMap Prod.snd := by
  induction written with
  | nil => rfl
  | cons entry rest ih =>
    obtain ⟨spellsEntry, spellsRest⟩ := List.forall_mem_cons.mp spells
    rw [List.map_cons, callsignDigits_cons_of_leadingDigits spellsEntry.leadingDigits,
      ih spellsRest, List.flatMap_cons]

theorem flatMap_snd_isEmpty {vocabulary : Vocabulary} {written : List (Text × List Digit)}
    (spells : ∀ entry ∈ written, vocabulary.SpellsDigits entry.1 entry.2) :
    (written.flatMap Prod.snd).isEmpty = written.isEmpty := by
  cases written with
  | nil => rfl
  | cons entry rest =>
    have nonempty := (spells entry List.mem_cons_self).digits_ne_nil
    rw [List.flatMap_cons, List.isEmpty_cons, List.isEmpty_eq_false_iff]
    exact List.append_ne_nil_of_left_ne_nil nonempty _

/-- Behind its first digit a numeral goes on where a callsign has a space. -/
theorem sentence_numeralOf_ne {digits others : List Digit} (several : 1 < digits.length)
    (rest : List Text) :
    sentence (numeralOf digits :: rest) ≠ sentence (others.map digitNumeral) := by
  match digits, several with
  | first :: second :: more, _ =>
    have noSpace : ∀ digit : Digit, digit.val.digitChar ≠ ' ' := by decide
    intro same
    cases others with
    | nil => rw [sentence_cons, numeralOf_cons] at same; cases same
    | cons other others =>
      rw [sentence_cons, numeralOf_cons, numeralOf_cons, List.map_cons, sentence_cons,
        digitNumeral_eq] at same
      have sameRest := (List.cons_eq_cons.mp same).2
      cases others with
      | nil => cases sameRest
      | cons third others => exact noSpace second (List.cons_eq_cons.mp sameRest).1

/-- A segment of digits alone, each written as a word for it or several as a numeral, is the
callsign of these digits exactly if the first word is a single digit. A numeral of several digits
in front is kept as it stands, and the callsign is valid only if more digits follow. -/
theorem decodeCallsign_eq_digits_iff {first : Text × List Digit} {rest : List (Text × List Digit)}
    (spells : ∀ entry ∈ first :: rest, standard.SpellsDigits entry.1 entry.2) {segment : Text}
    (isSegment : words segment = (first :: rest).map Prod.fst) :
    (standard.decodeCallsign (words segment) =
        ⟨sentence (((first :: rest).flatMap Prod.snd).map digitNumeral), true⟩ ↔
      first.2.length = 1) ∧
    (first.2.length ≠ 1 → standard.decodeCallsign (words segment) =
      ⟨sentence (first.1 :: (rest.flatMap Prod.snd).map digitNumeral), !rest.isEmpty⟩) := by
  obtain ⟨spellsFirst, spellsRest⟩ := List.forall_mem_cons.mp spells
  have laterDigits := callsignDigits_of_spellsDigits spellsRest
  rw [isSegment, List.map_cons, decodeCallsign, laterDigits, spellsFirst.digit?_eq,
    List.flatMap_cons]
  by_cases single : first.2.length = 1
  · obtain ⟨digit, isDigit⟩ := List.length_eq_one_iff.mp single
    simp [isDigit]
  · have several : 1 < first.2.length := by
      have := List.length_pos_iff.mpr spellsFirst.digits_ne_nil
      omega
    have isNumeral : first.1 = numeralOf first.2 := spellsFirst.eq_numeralOf several
    rw [if_neg single]
    refine ⟨⟨fun same => ?_, fun isSingle => absurd isSingle single⟩, fun _ => ?_⟩
    · rw [isNumeral] at same
      exact absurd (congrArg Callsign.text same) (sentence_numeralOf_ne several _)
    · rw [flatMap_snd_isEmpty spellsRest]

/-- A word for a digit in front of a numeral, and a numeral in front of the word. -/
theorem decodeCallsign_eq_digits_iff_eitherWay :
    ((∀ entry ∈ [("wun".toList, [1]), ("40".toList, [4, 0])],
        standard.SpellsDigits entry.1 entry.2) ∧
      words "wun 40".toList = ["wun".toList, "40".toList] ∧
        standard.decodeCallsign (words "wun 40".toList) = ⟨"1 4 0".toList, true⟩) ∧
    (∀ entry ∈ [("40".toList, [4, 0]), ("wun".toList, [1])],
        standard.SpellsDigits entry.1 entry.2) ∧
      words "40 wun".toList = ["40".toList, "wun".toList] ∧
        standard.decodeCallsign (words "40 wun".toList) = ⟨"40 1".toList, true⟩ := by
  have wun : standard.SpellsDigits "wun".toList [1] := .inl ⟨1, rfl, by decide⟩
  have forty : standard.SpellsDigits "40".toList [4, 0] := .inr ⟨by decide, by decide⟩
  have wordFirst : ∀ entry ∈ [("wun".toList, [1]), ("40".toList, [4, 0])],
      standard.SpellsDigits entry.1 entry.2 :=
    List.forall_mem_cons.mpr ⟨wun, List.forall_mem_singleton.mpr forty⟩
  have numeralFirst : ∀ entry ∈ [("40".toList, [4, 0]), ("wun".toList, [1])],
      standard.SpellsDigits entry.1 entry.2 :=
    List.forall_mem_cons.mpr ⟨forty, List.forall_mem_singleton.mpr wun⟩
  have wordSegment : words "wun 40".toList = ["wun".toList, "40".toList] := by decide
  have numeralSegment : words "40 wun".toList = ["40".toList, "wun".toList] := by decide
  exact ⟨⟨wordFirst, wordSegment, (decodeCallsign_eq_digits_iff wordFirst wordSegment).1.mpr rfl⟩,
    numeralFirst, numeralSegment,
    (decodeCallsign_eq_digits_iff numeralFirst numeralSegment).2 (by decide)⟩

end Vocabulary

end RadioCall
