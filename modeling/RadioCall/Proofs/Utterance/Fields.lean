/-
This file shows that the callsign and the fields of an utterance are read as they were
meant. The words for digits are read one by one, three of them are a bearing, and a
numeral is read as the number that it was written for. A numeral of one digit is a digit
word as well, so it must not stand in front of another; the range stands in front of an
altitude of two digits or more.
-/

import RadioCall.Proofs.Location
import RadioCall.Proofs.Text.Numeral
import RadioCall.Proofs.Utterance.Basic

namespace RadioCall

namespace Vocabulary

/-! ### Words for digits -/

section

variable {vocabulary : Vocabulary} {spelled : List (Text × Digit)}
  (spells : ∀ entry ∈ spelled, vocabulary.digit? entry.1 = some entry.2)

include spells

theorem spelledDigits?_of_spells :
    vocabulary.spelledDigits? (spelled.map Prod.fst) = some (spelled.map Prod.snd) := by
  induction spelled with
  | nil => rfl
  | cons entry rest ih =>
    obtain ⟨isDigit, spellsRest⟩ := List.forall_mem_cons.mp spells
    have decoded : vocabulary.decodeDigits entry.1 = some [entry.2] := by
      simp [decodeDigits, leadingDigits, isDigit]
    exact spelledDigits?_cons_eq_some_iff.mpr ⟨[entry.2], _, decoded, ih spellsRest, rfl⟩

theorem callsignDigits_of_spells :
    vocabulary.callsignDigits (spelled.map Prod.fst) = spelled.map Prod.snd := by
  induction spelled with
  | nil => rfl
  | cons entry rest ih =>
    obtain ⟨isDigit, spellsRest⟩ := List.forall_mem_cons.mp spells
    have leading : vocabulary.leadingDigits entry.1 = ⟨[entry.2], true⟩ := by
      rw [leadingDigits, isDigit]
    rw [List.map_cons, callsignDigits, leading, ih spellsRest]
    rfl

/-- A word and the words for some digits are a callsign. -/
theorem decodeCallsign_of_spells {word : Text} (notDigitWord : ¬vocabulary.isDigitWord word)
    (hasDigits : spelled ≠ []) :
    vocabulary.decodeCallsign (word :: spelled.map Prod.fst) =
      ⟨sentence (word :: spelled.map fun entry => digitNumeral entry.2), true⟩ := by
  have unknown : vocabulary.digit? word = none := by
    simpa only [isDigitWord, Option.not_isSome_iff_eq_none] using notDigitWord
  have some : (spelled.map Prod.snd).isEmpty = false := by simpa using hasDigits
  rw [decodeCallsign, callsignDigits_of_spells spells, unknown]
  simp only [some, Bool.not_false, List.map_map]
  rfl

/-- Three words for digits spell a bearing. -/
theorem spellsBearing_of_spells (three : spelled.length = 3)
    (small : positionalValue (spelled.map fun entry => entry.2.val) ≤ 360) :
    vocabulary.SpellsBearing (spelled.map Prod.fst)
      (positionalValue (spelled.map fun entry => entry.2.val)) := by
  refine ⟨⟨spelled.map Prod.snd, spelledDigits?_of_spells spells, ?_, ?_⟩, small⟩
  · rw [List.length_map, three]
  · rw [List.map_map]
    rfl

end

/-! ### Numerals -/

/-- The numerals of the digits are digit words of the standard vocabulary. -/
theorem standard_digit?_digitNumeral :
    ∀ digit, standard.digit? (digitNumeral digit) = some digit := by
  decide

theorem isLongNumeral_decimal {number : Nat} (large : 10 ≤ number) :
    isLongNumeral (decimal number) := by
  rw [isLongNumeral, isNumeral_decimal, Bool.true_and]
  exact decide_eq_true (one_lt_length_decimal_iff.mpr large)

/-- A numeral is taken as the number that it was written for, unless it is a digit in front
of a digit word. -/
theorem exists_isTaken_decimal {number : Nat} (short : (decimal number).length ≤ numeralLimit)
    {following : List Text}
    (apart : 10 ≤ number ∨ following.head?.all fun token => !standard.isDigitWord token) :
    ∃ phrase : NumberPhrase, phrase.IsTaken standard following ∧
      phrase.tokens = [decimal number] ∧ phrase.value standard = number := by
  by_cases large : 10 ≤ number
  · exact ⟨.numeral (decimal number), ⟨isLongNumeral_decimal large, short⟩, rfl,
      numeralValue_decimal number⟩
  · have small : number < 10 := Nat.lt_of_not_le large
    have isDigit : standard.digit? (decimal number) = some ⟨number, small⟩ :=
      standard_digit?_digitNumeral ⟨number, small⟩
    have isWord : standard.isDigitWord (decimal number) := by
      rw [isDigitWord, isDigit]
      rfl
    have notLong : ¬isLongNumeral (decimal number) :=
      fun long => standard_hasPlainDigits.long _ long isWord
    refine ⟨.digitWords [decimal number], ⟨⟨List.cons_ne_nil _ _, ?_⟩, ?_, ?_⟩, rfl, ?_⟩
    · intro word member
      rwa [List.mem_singleton.mp member]
    · exact apart.resolve_left large
    · simpa using notLong
    · rw [NumberPhrase.value, digitValues, List.filterMap_cons, isDigit]
      exact Nat.zero_add number

/-- An altitude of two digits or more is no digit word, so a range in front of it ends. -/
theorem not_isDigitWord_decimal {number : Nat} (large : 10 ≤ number) :
    ¬standard.isDigitWord (decimal number) :=
  standard_hasPlainDigits.long _ (isLongNumeral_decimal large)

/-! ### Fields -/

theorem standard_digit?_of_mem {spelled : List (Text × Digit)}
    (listed : Utterance.AreListed standard spelled) :
    ∀ entry ∈ spelled, standard.digit? entry.1 = some entry.2 := by
  have all : ∀ entry ∈ standard.digits, standard.digit? entry.1 = some entry.2 := by decide
  exact fun entry member => all entry (listed entry member)

theorem readBearing_of_spellsBearing {utterance : Utterance} {bearing : Int}
    (spells : utterance.SpellsBearing standard bearing) (inRange : IsBearing bearing) :
    (standard.readBearing (utterance.bearing.map Prod.fst)).result = .ok (some bearing.toNat) := by
  have isDegrees := spells.spelled
  have atMost := inRange.2
  have isRead :
      standard.readBearing (utterance.bearing.map Prod.fst) = .found bearing.toNat [] := by
    refine readBearing_eq_found_iff.mpr ⟨utterance.bearing.map Prod.fst, _,
      (List.append_nil _).symm,
      spellsBearing_of_spells (standard_digit?_of_mem spells.listed) spells.three (by omega), ?_⟩
    omega
  rw [isRead]
  rfl

/-- The tokens of a location are read as the location. -/
theorem readBra_braTokens {utterance : Utterance} {bra : Bra}
    (spells : utterance.SpellsBearing standard bra.bearing) (spoken : bra.CanBeSpoken) :
    (standard.readBra (utterance.braTokens bra)).result = .ok (some bra) := by
  obtain ⟨bearing, range, altitude⟩ := bra
  obtain ⟨range, rfl⟩ := Int.eq_ofNat_of_zero_le spoken.range.nonnegative
  obtain ⟨altitude, rfl⟩ := Int.eq_ofNat_of_zero_le spoken.altitude.nonnegative
  have isDegrees : bearing = _ := spells.spelled
  have inRange : IsBearing bearing := spoken.bearing
  have highEnough : 10 ≤ altitude := Int.ofNat_le.mp spoken.highEnough
  have isBearing := spellsBearing_of_spells (standard_digit?_of_mem spells.listed) spells.three
    (by have := inRange.2; omega)
  obtain ⟨altitudePhrase, altitudeTaken, altitudeTokens, altitudeValue⟩ :=
    @exists_isTaken_decimal altitude spoken.altitude.short [] (.inl highEnough)
  have ends : [decimal altitude].head?.all fun token => !standard.isDigitWord token := by
    simpa using not_isDigitWord_decimal highEnough
  obtain ⟨rangePhrase, rangeTaken, rangeTokens, rangeValue⟩ :=
    exists_isTaken_decimal spoken.range.short (.inr ends)
  have notAngels : altitudePhrase.tokens.head? ≠ some angelsWord := by
    rw [altitudeTokens]
    intro same
    have isAngels := isNumeral_decimal altitude
    rw [Option.some.inj same] at isAngels
    exact absurd isAngels (by decide)
  let phrase : BraPhrase := ⟨utterance.bearing.map Prod.fst, rangePhrase, .feet altitudePhrase⟩
  have isDegreesOf : phrase.degrees standard =
      positionalValue (utterance.bearing.map fun entry => entry.2.val) :=
    @SpellsBearing.degrees_eq standard phrase _ isBearing
  refine readBra_result_eq_some_iff.mpr ⟨phrase, ⟨?_, ?_, ?_⟩, ?_, ?_⟩
  · rw [isDegreesOf]
    exact isBearing
  · show rangePhrase.IsTaken standard altitudePhrase.tokens
    rw [altitudeTokens]
    exact rangeTaken
  · exact ⟨notAngels, altitudeTaken, nofun⟩
  · show utterance.bearing.map Prod.fst ++ (rangePhrase.tokens ++ altitudePhrase.tokens) = _
    rw [rangeTokens, altitudeTokens]
    rfl
  · show Bra.mk (phrase.degrees standard % 360 : Nat) (rangePhrase.value standard)
      (altitudePhrase.value standard) = _
    have north := inRange.2
    rw [isDegreesOf, rangeValue, altitudeValue, Nat.mod_eq_of_lt (by omega), ← isDegrees]

/-- The first token of a location is no keyword. -/
theorem head?_braTokens_ne {utterance : Utterance} {bra : Bra}
    (spells : utterance.SpellsBearing standard bra.bearing) {keyword : Text}
    (other : ¬standard.isDigitWord keyword) : (utterance.braTokens bra).head? ≠ some keyword := by
  have nonempty : utterance.bearing ≠ [] := fun isNil => by
    have three := spells.three
    rw [isNil] at three
    cases three
  obtain ⟨first, rest, isFirst⟩ := List.exists_cons_of_ne_nil nonempty
  have isDigit := standard_digit?_of_mem spells.listed first (isFirst ▸ List.mem_cons_self)
  intro same
  rw [Utterance.braTokens, isFirst] at same
  rw [← Option.some.inj same, isDigitWord, isDigit] at other
  exact other rfl

/-- The tokens of the fields of a request are read as the request. -/
theorem readRequest_fieldTokens {utterance : Utterance} {request : Request}
    (fits : utterance.FitsFields standard request) (spoken : request.CanBeSpoken) :
    standard.readRequest request.word request.callsign (utterance.fieldTokens request) =
      .ok (some request) := by
  cases request with
  | alphaCheck callsign => rfl
  | radioCheck callsign => rfl
  | bogeyDope callsign filter =>
    rcases fits with ⟨noWord, rfl⟩ | ⟨word, isWord, listed⟩
    · rw [Utterance.fieldTokens, noWord]
      rfl
    · have categories : ∀ entry ∈ standard.categories,
          standard.category? entry.1 = some entry.2 := by decide
      have isCategory := categories _ listed
      simp only at isCategory
      simp only [Utterance.fieldTokens, isWord, Option.toList_some, Request.word, Request.callsign,
        readRequest, List.head?_cons, Option.bind_some, isCategory, Option.getD_some]
  | picture callsign radius =>
    cases radius with
    | none => rfl
    | some miles =>
      have hasNumeral : HasNumeral miles := spoken miles rfl
      obtain ⟨number, rfl⟩ := Int.eq_ofNat_of_zero_le hasNumeral.nonnegative
      obtain ⟨phrase, taken, isToken, isValue⟩ :=
        @exists_isTaken_decimal number hasNumeral.short [] (.inr rfl)
      have isRead : standard.readNumber [decimal number] = .found number [] :=
        readNumber_eq_found_iff.mpr ⟨phrase, taken, by rw [isToken]; rfl, isValue.symm⟩
      have isNumber : standard.isNumber (decimal number) := by
        rw [Vocabulary.isNumber, isNumeral_decimal, Bool.true_or]
      show standard.readRequest .picture callsign [decimal number] = _
      rw [readRequest, List.head?_cons, Option.any_some, if_pos isNumber, isRead]
      rfl
  | spiked callsign bearing =>
    have isRead := readBearing_of_spellsBearing fits spoken
    have nonnegative := spoken.1
    show ((standard.readBearing (utterance.bearing.map Prod.fst)).result.map fun found =>
      found.map fun degrees => Request.spiked callsign (Int.ofNat degrees)) = _
    rw [isRead]
    show Except.ok (some (Request.spiked callsign (Int.ofNat bearing.toNat))) = _
    rw [Int.ofNat_eq_natCast, Int.toNat_of_nonneg nonnegative]
  | declare callsign bra isBullseye =>
    have isRead := readBra_braTokens fits spoken
    have isKeyword : readKeyword bullseyeWord
        (utterance.fieldTokens (.declare callsign bra isBullseye)) =
          (isBullseye, utterance.braTokens bra) := by
      cases isBullseye with
      | true => exact readKeyword_cons_self _ _
      | false => exact readKeyword_of_head?_ne (head?_braTokens_ne fits (by decide))
    show (standard.readRequest .declare callsign _) = _
    rw [readRequest, isKeyword]
    show (standard.readBra (utterance.braTokens bra)).result.map _ = _
    rw [isRead]
    rfl
  | snaplock callsign bra =>
    have isRead := readBra_braTokens fits spoken
    show (standard.readBra (utterance.braTokens bra)).result.map _ = _
    rw [isRead]
    rfl

end Vocabulary

end RadioCall
