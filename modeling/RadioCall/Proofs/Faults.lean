/-
This file says when a transmission cannot be read at all. There are two ways: a number that
is spelled out has too many digits to be written as a numeral, or a numeral with too many
digits stands where a field of the request that was announced is a number. Both happen in
transmissions of any controller and can be sent by any pilot, so reading is not total.
-/

import RadioCall.Proofs.Utterance.Heard

namespace RadioCall

namespace Controller

variable {controller : Controller} {heard : List Text} {fault : Fault}

/-! ### Faults in the fields -/

/-- Whether a request is due whose fields hold a numeral of so many digits that it cannot be
read: the controller is addressed, a trigger counts and a valid callsign stands before it. -/
def FieldsTooLong (controller : Controller) (heard : List Text) (digits : Nat) : Prop :=
  controller.IsAddressed heard ∧ ∃ ending trigger,
    Selects controller.vocabulary.triggers heard.tail ending trigger ∧
      controller.vocabulary.holdsDigit (segmentBefore heard ending trigger) ∧
        Vocabulary.RequestTooLong controller.vocabulary digits (heard.tail.drop ending)
          trigger.request

section

variable (ownedPhrases : HaveOwnedPhrases controller.vocabulary.triggers)
  (longestFirst : AreLongestFirst controller.vocabulary.triggers)

include ownedPhrases longestFirst

/-- Where a trigger counts, hearing faults exactly if the callsign is valid and reading the
fields faults. -/
theorem hearTokens_eq_error_iff_of_selects (nonempty : ∀ token ∈ heard, token ≠ [])
    (addressed : controller.IsAddressed heard) {ending : Nat} {trigger : Trigger}
    (selects : Selects controller.vocabulary.triggers heard.tail ending trigger) :
    controller.hearTokens heard = .error fault ↔
      controller.vocabulary.holdsDigit (segmentBefore heard ending trigger) ∧
        ∃ digits, Vocabulary.RequestTooLong controller.vocabulary digits (heard.tail.drop ending)
          trigger.request ∧ fault = .numeralTooLong digits := by
  have validIff : (controller.vocabulary.decodeCallsign
        (segmentBefore heard ending trigger)).isValid ↔
      controller.vocabulary.holdsDigit (segmentBefore heard ending trigger) :=
    Vocabulary.decodeCallsign_isValid_iff fun token member =>
      nonempty token (List.mem_of_mem_tail (List.mem_of_mem_take member))
  rw [hearTokens_of_selects ownedPhrases longestFirst addressed selects, ← validIff]
  simp only
  split
  · next valid =>
    rw [map_eq_error_iff, Vocabulary.readRequest_eq_error_iff]
    exact ⟨fun tooLong => ⟨valid, tooLong⟩, fun both => both.2⟩
  · next notValid =>
    constructor
    · intro impossible
      cases impossible
    · exact fun both => absurd both.1 notValid

/-- Hearing faults exactly if the fields of a request that is due are too long. -/
theorem hearTokens_eq_error_iff (nonempty : ∀ token ∈ heard, token ≠ []) :
    controller.hearTokens heard = .error fault ↔
      ∃ digits, controller.FieldsTooLong heard digits ∧ fault = .numeralTooLong digits := by
  constructor
  · intro fails
    by_cases addressed : controller.IsAddressed heard
    · rcases Vocabulary.scan_cases ownedPhrases longestFirst heard.tail with
        ⟨_, never⟩ | ⟨ending, trigger, selects, _⟩
      · rw [hearTokens_of_no_phrase ownedPhrases longestFirst addressed never] at fails
        cases fails
      · obtain ⟨holds, digits, tooLong, isFault⟩ := (hearTokens_eq_error_iff_of_selects ownedPhrases
          longestFirst nonempty addressed selects).mp fails
        exact ⟨digits, ⟨addressed, ending, trigger, selects, holds, tooLong⟩, isFault⟩
    · rw [hearTokens_of_not_isAddressed addressed] at fails
      cases fails
  · intro tooLong
    obtain ⟨digits, ⟨addressed, ending, trigger, selects, holds, tooLong⟩, isFault⟩ := tooLong
    refine (hearTokens_eq_error_iff_of_selects ownedPhrases longestFirst nonempty addressed
      selects).mpr ?_
    exact ⟨holds, digits, tooLong, isFault⟩

end

/-! ### Faults of transmissions -/

/-- Parsing faults exactly if a number that is spelled out has too many digits, or else the
fields of a request that is due hold a numeral with too many. -/
theorem parse_eq_error_iff {document : Document}
    (accepted : Vocabulary.ofDocument document = .ok controller.vocabulary) {text : Text} :
    controller.parse text = .error fault ↔
      ((∃ stretch ∈ stretches (replacePunctuation (lower text)), stretch.IsTooLong) ∧
          fault = .numberTooLong) ∨
        ∃ heard digits, tokens text = .ok heard ∧ controller.FieldsTooLong heard digits ∧
          fault = .numeralTooLong digits := by
  obtain ⟨ownedPhrases, longestFirst⟩ := Vocabulary.ofDocument_triggers accepted
  have heardIff {heard : List Text} (isHeard : tokens text = .ok heard) :
      controller.hearTokens heard = .error fault ↔
        ∃ digits, controller.FieldsTooLong heard digits ∧ fault = .numeralTooLong digits := by
    refine hearTokens_eq_error_iff ownedPhrases longestFirst fun token member => ?_
    obtain ⟨sanitized, _, rfl⟩ := map_eq_ok_iff.mp isHeard
    exact (isWord_of_mem_words member).nonempty
  rw [parse, map_eq_error_iff, hear, bind_eq_error_iff, tokens_eq_error_iff]
  refine or_congr_right ⟨?_, ?_⟩
  · intro fails
    obtain ⟨heard, isHeard, fails⟩ := fails
    obtain ⟨digits, tooLong, isFault⟩ := (heardIff isHeard).mp fails
    exact ⟨heard, digits, isHeard, tooLong, isFault⟩
  · intro tooLong
    obtain ⟨heard, digits, isHeard, tooLong, isFault⟩ := tooLong
    exact ⟨heard, isHeard, (heardIff isHeard).mpr ⟨digits, tooLong, isFault⟩⟩

end Controller

/-! ### Numerals that are too long -/

/-- A request for a picture within a radius of so many digits. -/
def longRadius (count : Nat) : List Text :=
  ["anyface".toList, "eagle".toList, "1".toList, "picture".toList, List.replicate count '1']

/-- The request is heard as it is spoken. -/
theorem tokens_longRadius {count : Nat} (some : 0 < count) :
    tokens (sentence (longRadius count)) = .ok (longRadius count) := by
  have keptWord : IsKeptToken "eagle".toList :=
    isKeptToken_of_sanitize (by decide) (by decide +kernel)
  have digits : IsSimpleToken (List.replicate count '1') ∧
      heardAs (List.replicate count '1') = List.replicate count '1' := by
    refine isSimpleToken_of_digits (fun none => ?_) fun character member => ?_
    · rw [List.replicate_eq_nil_iff] at none
      omega
    · rw [List.eq_of_mem_replicate member]
      decide
  have words : IsSimpleToken "1".toList ∧ IsSimpleToken "picture".toList ∧
      heardAs "1".toList = "1".toList ∧ heardAs "picture".toList = "picture".toList := by
    decide +kernel
  obtain ⟨unitSimple, phraseSimple, unitHeard, phraseHeard⟩ := words
  have simple : ∀ token ∈ ["1".toList, "picture".toList, List.replicate count '1'],
      IsSimpleToken token :=
    List.forall_mem_cons.mpr ⟨unitSimple, List.forall_mem_cons.mpr ⟨phraseSimple,
      List.forall_mem_singleton.mpr digits.1⟩⟩
  obtain ⟨first, isFirst, isHeard⟩ :=
    tokens_sentence Vocabulary.standard_universalAlias_isKeptToken keptWord simple
  rw [unitHeard, or_self] at isFirst
  rw [isFirst, List.map_cons, List.map_singleton, phraseHeard, digits.2] at isHeard
  exact isHeard

/-- The radius cannot be read if it has too many digits. -/
theorem fieldsTooLong_longRadius (callsign : Text) {count : Nat} (tooMany : numeralLimit < count) :
    Controller.FieldsTooLong ⟨callsign, .standard⟩ (longRadius count) count := by
  let trigger : Trigger := ⟨["picture".toList], .picture⟩
  have selects : Selects Vocabulary.standard.triggers
      (["eagle".toList, "1".toList] ++ trigger.phrase ++ [List.replicate count '1'])
      (["eagle".toList, "1".toList] ++ trigger.phrase).length trigger := by
    refine selects_of_not_endsAt standard_haveClearEnds (by decide) (fun other listed => ?_) _
    exact not_endsAt_callsign standard_haveClearEnds (by decide) (by decide) listed
  have isNumeral : isNumeral (List.replicate count '1') := by
    obtain ⟨others, rfl⟩ := Nat.exists_eq_add_of_lt (Nat.zero_lt_of_lt tooMany)
    rw [RadioCall.isNumeral, List.all_replicate]
    simp [List.replicate_succ]
    decide
  have holdsDigit : Vocabulary.standard.holdsDigit ["eagle".toList, "1".toList] := by decide
  refine ⟨.inr rfl, _, trigger, selects, holdsDigit, ?_⟩
  exact ⟨List.replicate count '1', [], rfl, isNumeral, List.length_replicate, tooMany⟩

namespace Controller

/-- A radius of 4301 digits is more than can be read. -/
theorem parse_eq_error_longRadius :
    Vocabulary.ofDocument (.mapping Vocabulary.standard.definition) = .ok .standard ∧
      parse ⟨"magic".toList, .standard⟩ (sentence (longRadius 4301)) =
        .error (.numeralTooLong 4301) := by
  have accepted := Vocabulary.ofDocument_definition_standard
  have tooLong := fieldsTooLong_longRadius "magic".toList (show numeralLimit < 4301 by decide)
  refine ⟨accepted, (@parse_eq_error_iff ⟨"magic".toList, .standard⟩ _ _ accepted _).mpr (.inr ?_)⟩
  exact ⟨longRadius 4301, 4301, tokens_longRadius (by decide), tooLong, rfl⟩

end Controller

/-! ### Spelled-out numbers that are too long -/

/-- The words of a number of hundreds, said again and again. -/
def hundreds (digit : Fin 10) (count : Nat) : List NumberWord :=
  (List.replicate count [.unit digit, .hundred]).flatten

theorem hundreds_succ (digit : Fin 10) (count : Nat) :
    hundreds digit (count + 1) = .unit digit :: .hundred :: hundreds digit count := rfl

theorem powerOfTen_two_mul_succ (count : Nat) :
    powerOfTen (2 * (count + 1)) = 100 * powerOfTen (2 * count) := by
  show powerOfTen (2 * count) * 10 * 10 = 100 * powerOfTen (2 * count)
  omega

namespace Cardinal

section

variable {digit : Fin 10} (positive : 0 < digit.val)

include positive

theorem unit_ne_zero : NumberWord.unit digit ≠ .unit 0 := by
  intro same
  rw [NumberWord.unit.inj same] at positive
  exact absurd positive (Nat.lt_irrefl 0)

/-- A scale multiplies the only number before it. -/
theorem add_hundred (group : Cardinal) :
    add [.unit digit :: group] .hundred = [.hundred :: .unit digit :: group] := by
  have joined : joins [.unit digit :: group] .hundred := by
    simp [joins, NumberWord.isScale, unit_ne_zero positive]
  rw [add, if_pos joined]

/-- Each digit completes the number before it, and each scale multiplies it. -/
theorem foldl_add_hundreds (group : Cardinal) (count : Nat) :
    (hundreds digit count).foldl add [.hundred :: group] =
      [(hundreds digit count).reverse ++ .hundred :: group] := by
  induction count generalizing group with
  | zero => rfl
  | succ count ih =>
    rw [hundreds_succ, List.foldl_cons, List.foldl_cons, add_unit_of_isScale rfl group [] rfl,
      if_neg (unit_ne_zero positive), add_hundred positive, ih]
    simp

/-- However often it is said, it is a single number. -/
theorem divide_hundreds (count : Nat) :
    divide (hundreds digit (count + 1)) = [hundreds digit (count + 1)] := by
  have begins : add [] (.unit digit) = [[.unit digit]] := rfl
  rw [divide, hundreds_succ, List.foldl_cons, List.foldl_cons, begins, add_hundred positive,
    foldl_add_hundreds positive]
  simp

omit positive in
theorem foldl_take_hundreds (current count : Nat) :
    ∃ more, (hundreds digit count).foldl Tally.take ⟨0, some current⟩ = ⟨0, some more⟩ ∧
      current * powerOfTen (2 * count) ≤ more := by
  induction count generalizing current with
  | zero => exact ⟨current, rfl, Nat.le_of_eq (Nat.mul_one current)⟩
  | succ count ih =>
    obtain ⟨more, isMore, atLeast⟩ := ih ((current + digit.val) * 100)
    refine ⟨more, isMore, Nat.le_trans ?_ atLeast⟩
    rw [powerOfTen_two_mul_succ, ← Nat.mul_assoc]
    exact Nat.mul_le_mul_right _ (Nat.mul_le_mul_right _ (Nat.le_add_right current digit.val))

theorem le_value_hundreds (count : Nat) :
    powerOfTen (2 * (count + 1)) ≤ value (hundreds digit (count + 1)) := by
  obtain ⟨more, isMore, atLeast⟩ := @foldl_take_hundreds digit ((0 + digit.val) * 100) count
  have isValue : value (hundreds digit (count + 1)) = more := by
    have folded : (hundreds digit (count + 1)).foldl Tally.take ⟨0, none⟩ = ⟨0, some more⟩ := isMore
    rw [value, folded]
    exact Nat.zero_add more
  rw [isValue, powerOfTen_two_mul_succ]
  refine Nat.le_trans (Nat.mul_le_mul_right _ ?_) atLeast
  omega

/-- It has two digits for each time that it is said, so sometime they are too many. -/
theorem isTooLong_hundreds {count : Nat} (many : numeralLimit ≤ 2 * (count + 1)) :
    IsTooLong (hundreds digit (count + 1)) :=
  ⟨Bool.false_ne_true,
    Nat.le_trans (powerOfTen_le_powerOfTen many) (le_value_hundreds positive count)⟩

end

end Cardinal

/-- No controller can read a number that is said on and on, wherever it would stand. -/
theorem Controller.parse_hundreds (controller : Controller) {digit : Fin 10}
    (positive : 0 < digit.val) {count : Nat} (many : numeralLimit ≤ 2 * (count + 1)) :
    controller.parse (sentence ((hundreds digit (count + 1)).map NumberWord.spelling)) =
      .error .numberTooLong := by
  have settled : ∀ character ∈ sentence ((hundreds digit (count + 1)).map NumberWord.spelling),
      IsSettled character := by
    intro character member
    rcases mem_sentence member with rfl | ⟨word, isWord, inWord⟩
    · decide
    · obtain ⟨number, _, rfl⟩ := List.mem_map.mp isWord
      exact isSettled_of_mem_spelling number character inWord
  obtain ⟨source, isRun⟩ := stretchesOf_sentence_spelling
    (hundreds_succ digit count ▸ List.cons_ne_nil _ _)
  have tooLong : Stretch.IsTooLong (.run source (hundreds digit (count + 1))) := by
    refine ⟨hundreds digit (count + 1), ?_, Cardinal.isTooLong_hundreds positive many⟩
    rw [Cardinal.divide_hundreds positive]
    exact List.mem_cons_self
  have fails : tokens (sentence ((hundreds digit (count + 1)).map NumberWord.spelling)) =
      .error .numberTooLong := by
    refine tokens_eq_error_iff.mpr ⟨⟨_, ?_, tooLong⟩, rfl⟩
    rw [replacePunctuation_lower_of_isSettled settled, stretches_eq, isRun]
    exact List.mem_cons_self
  exact map_eq_error_iff.mpr (bind_eq_error_iff.mpr (.inl fails))

end RadioCall
