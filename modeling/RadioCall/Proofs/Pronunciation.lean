/-
This file shows that it does not matter how the digits of a transmission are pronounced. A
word for a digit is told from other words in several places: for a phrase, a keyword, a
category, a long numeral, a digit alone or among others. In each of them it counts for
nothing but its digit, so two transmissions that differ in the words for their digits are
read alike step by step: what is read is the same, and what is left differs in such words
only.
-/

import Mathlib.Data.List.Find
import Mathlib.Data.List.Forall2
import RadioCall.Proofs.Utterance.Understood

namespace RadioCall

/-! ### Words for the same digit -/

namespace Vocabulary

/-- Whether digit words count for nothing but their digits: none is a word of a phrase, a
keyword, a category or a long numeral. -/
structure HasNeutralDigits (vocabulary : Vocabulary) : Prop extends vocabulary.HasPlainDigits where
  bullseye : ¬vocabulary.isDigitWord bullseyeWord
  phrases : ∀ trigger ∈ vocabulary.triggers, ∀ token ∈ trigger.phrase,
    ¬vocabulary.isDigitWord token
  categories : ∀ word, vocabulary.isDigitWord word → vocabulary.category? word = none

theorem standard_hasNeutralDigits : standard.HasNeutralDigits where
  toHasPlainDigits := standard_hasPlainDigits
  bullseye := by decide
  phrases := standard_haveClearEnds.notDigits
  categories := by
    intro word isDigit
    have unnamed : ∀ entry ∈ standard.digits, standard.category? entry.1 = none := by decide
    obtain ⟨digit, spelled⟩ := Option.isSome_iff_exists.mp isDigit
    exact unnamed _ (mem_digits_of_digit? spelled)

/-- Whether two tokens say the same: they are the same, or words for the same digit. -/
def SaysSame (vocabulary : Vocabulary) (first second : Text) : Prop :=
  first = second ∨
    ∃ digit, vocabulary.digit? first = some digit ∧ vocabulary.digit? second = some digit

instance (vocabulary : Vocabulary) (first second : Text) :
    Decidable (vocabulary.SaysSame first second) :=
  inferInstanceAs (Decidable (first = second ∨
    ∃ digit, vocabulary.digit? first = some digit ∧ vocabulary.digit? second = some digit))

namespace SaysSame

variable {vocabulary : Vocabulary} {first second : Text} (same : vocabulary.SaysSame first second)

include same

/-- Tokens that say the same are the same unless both are digit words. -/
theorem eq_or_isDigitWord :
    first = second ∨ (vocabulary.isDigitWord first ∧ vocabulary.isDigitWord second) := by
  refine same.imp_right ?_
  rintro ⟨digit, isFirst, isSecond⟩
  rw [isDigitWord, isDigitWord, isFirst, isSecond]
  exact ⟨rfl, rfl⟩

theorem digit?_eq : vocabulary.digit? first = vocabulary.digit? second := by
  rcases same with rfl | ⟨digit, isFirst, isSecond⟩
  · rfl
  · rw [isFirst, isSecond]

/-- A word that is no digit word is not said in another way. -/
theorem eq_iff {word : Text} (notDigit : ¬vocabulary.isDigitWord word) :
    first = word ↔ second = word := by
  rcases same.eq_or_isDigitWord with rfl | ⟨firstDigit, secondDigit⟩
  · exact Iff.rfl
  · constructor
    · rintro rfl
      exact absurd firstDigit notDigit
    · rintro rfl
      exact absurd secondDigit notDigit

theorem leadingDigits_eq : vocabulary.leadingDigits first = vocabulary.leadingDigits second := by
  rcases same with rfl | ⟨digit, isFirst, isSecond⟩
  · rfl
  · rw [leadingDigits, leadingDigits, isFirst, isSecond]

theorem decodeDigits_eq : vocabulary.decodeDigits first = vocabulary.decodeDigits second := by
  rw [decodeDigits, decodeDigits, same.leadingDigits_eq]

theorem isNumber_eq : vocabulary.isNumber first = vocabulary.isNumber second := by
  rcases same with rfl | ⟨digit, isFirst, isSecond⟩
  · rfl
  · rw [isNumber, isNumber, isFirst, isSecond, Option.isSome_some, Bool.or_true, Bool.or_true]

theorem category?_eq (neutral : vocabulary.HasNeutralDigits) :
    vocabulary.category? first = vocabulary.category? second := by
  rcases same.eq_or_isDigitWord with rfl | ⟨firstDigit, secondDigit⟩
  · rfl
  · rw [neutral.categories first firstDigit, neutral.categories second secondDigit]

end SaysSame

end Vocabulary

variable {vocabulary : Vocabulary} {heard others : List Text}

/-! ### Readings -/

/-- Whether two readings have the same result and leave tokens that say the same. -/
structure Reading.Agree {α : Type} (vocabulary : Vocabulary) (first second : Reading α) :
    Prop where
  result : first.result = second.result
  rest : List.Forall₂ vocabulary.SaysSame first.rest second.rest

namespace Reading.Agree

variable {α β : Type}

theorem found (same : List.Forall₂ vocabulary.SaysSame heard others) (value : α) :
    Agree vocabulary (Reading.found value heard) (Reading.found value others) :=
  ⟨rfl, same⟩

theorem missing (same : List.Forall₂ vocabulary.SaysSame heard others) :
    Agree vocabulary (Reading.missing heard : Reading α) (Reading.missing others) :=
  ⟨rfl, same⟩

/-- Readings agree if they do so step by step. -/
theorem andThen {first second : Reading α} (agree : Agree vocabulary first second)
    {next : α → List Text → Reading β}
    (behind : ∀ value {rest following : List Text},
      List.Forall₂ vocabulary.SaysSame rest following →
        Agree vocabulary (next value rest) (next value following)) :
    Agree vocabulary (first.andThen next) (second.andThen next) := by
  obtain ⟨result, rest⟩ := first
  obtain ⟨otherResult, following⟩ := second
  obtain ⟨rfl, sameRest⟩ := agree
  match result with
  | .ok (some value) => exact behind value sameRest
  | .ok none => exact missing sameRest
  | .error fault => exact ⟨rfl, sameRest⟩

theorem map {first second : Reading α} (agree : Agree vocabulary first second) (change : α → β) :
    Agree vocabulary (first.map change) (second.map change) :=
  agree.andThen fun value _ _ sameRest => found sameRest (change value)

end Reading.Agree

/-! ### Digits -/

section

variable (same : List.Forall₂ vocabulary.SaysSame heard others)

include same

/-- A keyword that is no digit word is taken from both or from neither. -/
theorem exists_readKeyword {keyword : Text} (notDigit : ¬vocabulary.isDigitWord keyword) :
    ∃ isThere rest following, readKeyword keyword heard = (isThere, rest) ∧
      readKeyword keyword others = (isThere, following) ∧
        List.Forall₂ vocabulary.SaysSame rest following := by
  cases same with
  | nil => exact ⟨false, [], [], rfl, rfl, .nil⟩
  | @cons token other rest following sameToken sameRest =>
    by_cases isKeyword : token = keyword
    · have isOther : other = keyword := (sameToken.eq_iff notDigit).mp isKeyword
      exact ⟨true, rest, following, if_pos isKeyword, if_pos isOther, sameRest⟩
    · have isOther : other ≠ keyword := fun same => isKeyword ((sameToken.eq_iff notDigit).mpr same)
      exact ⟨false, token :: rest, other :: following, if_neg isKeyword, if_neg isOther,
        .cons sameToken sameRest⟩

namespace Vocabulary

theorem bearingDigits_agree (digits : List Digit) :
    Reading.Agree vocabulary (vocabulary.bearingDigits digits heard)
      (vocabulary.bearingDigits digits others) := by
  induction same generalizing digits with
  | nil =>
    rw [bearingDigits]
    split
    · exact .found .nil digits
    · exact .missing .nil
  | cons sameToken sameRest ih =>
    rw [bearingDigits, bearingDigits, sameToken.decodeDigits_eq]
    split
    · exact .found (.cons sameToken sameRest) digits
    · split
      · exact .missing sameRest
      · exact ih _

theorem readBearing_agree :
    Reading.Agree vocabulary (vocabulary.readBearing heard) (vocabulary.readBearing others) := by
  refine (bearingDigits_agree same []).andThen fun digits _ _ sameRest => ?_
  cases bearingOf? digits with
  | none => exact .missing sameRest
  | some bearing => exact .found sameRest bearing

theorem moreDigits_agree (number : Nat) :
    Reading.Agree vocabulary (vocabulary.moreDigits number heard)
      (vocabulary.moreDigits number others) := by
  induction same generalizing number with
  | nil => exact .found .nil number
  | cons sameToken sameRest ih =>
    rw [moreDigits, moreDigits, sameToken.digit?_eq]
    split
    · exact ih _
    · exact .found (.cons sameToken sameRest) number

theorem callsignDigits_eq : vocabulary.callsignDigits heard = vocabulary.callsignDigits others := by
  induction same with
  | nil => rfl
  | cons sameToken _ ih => rw [callsignDigits, callsignDigits, sameToken.leadingDigits_eq, ih]

/-- Tokens that say the same are decoded as the same callsign. -/
theorem decodeCallsign_eq : vocabulary.decodeCallsign heard = vocabulary.decodeCallsign others := by
  cases same with
  | nil => rfl
  | cons sameToken sameRest =>
    rw [decodeCallsign, decodeCallsign, callsignDigits_eq sameRest]
    rcases sameToken with rfl | ⟨digit, isFirst, isSecond⟩
    · rfl
    · rw [isFirst, isSecond]

/-- Words that are no digit words stand in front of both or of neither. -/
theorem isPrefixOf_eq {phrase : List Text}
    (notDigits : ∀ token ∈ phrase, ¬vocabulary.isDigitWord token) :
    phrase.isPrefixOf heard = phrase.isPrefixOf others := by
  induction phrase generalizing heard others with
  | nil => rfl
  | cons word rest ih =>
    obtain ⟨notDigit, notDigitsRest⟩ := List.forall_mem_cons.mp notDigits
    cases same with
    | nil => rfl
    | @cons token other _ _ sameToken sameRest =>
      have sameWord : (word == token) = (word == other) := by
        rw [Bool.eq_iff_iff, beq_iff_eq, beq_iff_eq, eq_comm, sameToken.eq_iff notDigit, eq_comm]
      rw [List.isPrefixOf, List.isPrefixOf, sameWord, ih sameRest notDigitsRest]

end Vocabulary

end

/-! ### Triggers -/

namespace Vocabulary

/-- Whether two matches are of the same request, with tokens that say the same before and
after the phrase. -/
structure MatchesAgree (vocabulary : Vocabulary) (first second : TriggerMatch) : Prop where
  request : first.request = second.request
  segment : List.Forall₂ vocabulary.SaysSame first.segment second.segment
  rest : List.Forall₂ vocabulary.SaysSame first.rest second.rest

variable (neutral : vocabulary.HasNeutralDigits)
  (same : List.Forall₂ vocabulary.SaysSame heard others)

include neutral same

theorem endsAt_eq {trigger : Trigger} (listed : trigger ∈ vocabulary.triggers) :
    trigger.endsAt heard = trigger.endsAt others :=
  isPrefixOf_eq same fun token member =>
    neutral.phrases trigger listed token (List.mem_reverse.mp member)

/-- The same trigger is found at the same position, or none in both. -/
theorem scanFrom_agree {before otherBefore : List Text}
    (sameBefore : List.Forall₂ vocabulary.SaysSame before otherBefore) :
    Option.Rel (MatchesAgree vocabulary) (vocabulary.scanFrom before heard)
      (vocabulary.scanFrom otherBefore others) := by
  induction same generalizing before otherBefore with
  | nil => exact .none
  | @cons token other rest following sameToken sameRest ih =>
    have stillSame := sameBefore.cons sameToken
    have sameTrigger : (vocabulary.triggers.find? fun trigger => trigger.endsAt (token :: before)) =
        vocabulary.triggers.find? fun trigger => trigger.endsAt (other :: otherBefore) :=
      List.find?_congr fun trigger listed => endsAt_eq neutral stillSame listed
    rw [scanFrom, scanFrom, sameTrigger]
    split
    · exact .some ⟨rfl, List.rel_reverse (List.forall₂_drop _ stillSame), sameRest⟩
    · exact ih stillSame

theorem scan_agree :
    Option.Rel (MatchesAgree vocabulary) (vocabulary.scan heard) (vocabulary.scan others) :=
  scanFrom_agree neutral same .nil

/-! ### Fields -/

/-- A long numeral is no digit word, so a number that begins with one does so in both. -/
theorem readNumber_agree :
    Reading.Agree vocabulary (vocabulary.readNumber heard) (vocabulary.readNumber others) := by
  cases same with
  | nil => exact .missing .nil
  | @cons token other rest following sameToken sameRest =>
    rw [readNumber_cons, readNumber_cons, sameToken.digit?_eq]
    rcases sameToken.eq_or_isDigitWord with rfl | ⟨isDigit, isOther⟩
    · split
      · cases readNumeral token with
        | ok number => exact .found sameRest number
        | error fault => exact ⟨rfl, sameRest⟩
      · split
        · exact .missing sameRest
        · exact moreDigits_agree sameRest _
    · rw [if_neg fun long => neutral.long token long isDigit,
        if_neg fun long => neutral.long other long isOther]
      split
      · exact .missing sameRest
      · exact moreDigits_agree sameRest _

theorem readAltitude_agree :
    Reading.Agree vocabulary (vocabulary.readAltitude heard) (vocabulary.readAltitude others) := by
  obtain ⟨isThere, rest, following, isFirst, isSecond, sameRest⟩ :=
    exists_readKeyword same neutral.angels
  rw [readAltitude, readAltitude, isFirst, isSecond]
  cases isThere with
  | true => exact (readNumber_agree neutral sameRest).map _
  | false =>
    refine (readNumber_agree neutral same).andThen fun number _ _ sameRest => ?_
    obtain ⟨isThere, rest, following, isFirst, isSecond, sameRest⟩ :=
      exists_readKeyword sameRest neutral.thousand
    rw [isFirst, isSecond]
    cases isThere with
    | true => exact .found sameRest _
    | false => exact .found sameRest _

theorem readBra_agree :
    Reading.Agree vocabulary (vocabulary.readBra heard) (vocabulary.readBra others) := by
  refine (readBearing_agree same).andThen fun bearing _ _ sameRest => ?_
  refine (readNumber_agree neutral sameRest).andThen fun range _ _ sameRest => ?_
  refine (readAltitude_agree neutral sameRest).andThen fun altitude _ _ sameRest => ?_
  cases sameRest with
  | nil => exact .found .nil _
  | cons sameToken sameRest => exact .missing (.cons sameToken sameRest)

/-! ### Requests -/

/-- The same request is read from tokens that say the same, or the same fault is met. -/
theorem readRequest_eq (word : RequestWord) (callsign : Text) :
    vocabulary.readRequest word callsign heard = vocabulary.readRequest word callsign others := by
  cases word with
  | alphaCheck => rfl
  | radioCheck => rfl
  | bogeyDope =>
    have sameCategory : heard.head?.bind vocabulary.category? =
        others.head?.bind vocabulary.category? := by
      cases same with
      | nil => rfl
      | cons sameToken _ => exact sameToken.category?_eq neutral
    rw [readRequest, readRequest, sameCategory]
  | picture =>
    have sameNumber : heard.head?.any vocabulary.isNumber =
        others.head?.any vocabulary.isNumber := by
      cases same with
      | nil => rfl
      | cons sameToken _ => exact sameToken.isNumber_eq
    rw [readRequest, readRequest, sameNumber, (readNumber_agree neutral same).result]
  | spiked => rw [readRequest, readRequest, (readBearing_agree same).result]
  | declare =>
    obtain ⟨isThere, rest, following, isFirst, isSecond, sameRest⟩ :=
      exists_readKeyword same neutral.bullseye
    rw [readRequest, readRequest, isFirst, isSecond]
    simp only [(readBra_agree neutral sameRest).result]
  | snaplock => rw [readRequest, readRequest, (readBra_agree neutral same).result]

end Vocabulary

/-! ### Transmissions -/

namespace Controller

/-- Tokens that say the same have the same outcome behind the wake word. -/
theorem outcome_hearAddressed_eq {controller : Controller}
    (neutral : controller.vocabulary.HasNeutralDigits)
    (same : List.Forall₂ controller.vocabulary.SaysSame heard others) :
    Hearing.outcome <$> controller.hearAddressed heard =
      Hearing.outcome <$> controller.hearAddressed others := by
  have agree := Vocabulary.scan_agree neutral same
  rw [hearAddressed, hearAddressed]
  generalize controller.vocabulary.scan heard = first at agree ⊢
  generalize controller.vocabulary.scan others = second at agree ⊢
  cases agree with
  | none => rfl
  | some agree =>
    simp only [agree.request, Vocabulary.decodeCallsign_eq agree.segment,
      Vocabulary.readRequest_eq neutral agree.rest]
    split
    · rfl
    · rfl

/-- Two transmissions that begin with the same token and then say the same token by token,
each digit in any of its words, are read alike. -/
theorem parse_eq_of_saysSame {controller : Controller}
    (isStandard : controller.vocabulary = .standard) {first second : Text}
    (isFirst : tokens first = .ok heard) (isSecond : tokens second = .ok others)
    (sameWake : heard.head? = others.head?)
    (same : List.Forall₂ Vocabulary.standard.SaysSame heard.tail others.tail) :
    controller.parse first = controller.parse second := by
  have neutral : controller.vocabulary.HasNeutralDigits :=
    isStandard ▸ Vocabulary.standard_hasNeutralDigits
  have sameOutcome : Hearing.outcome <$> controller.hearTokens heard =
      Hearing.outcome <$> controller.hearTokens others := by
    match heard, others with
    | [], [] => rfl
    | [], _ :: _ => cases sameWake
    | _ :: _, [] => cases sameWake
    | wake :: rest, _ :: following =>
      obtain rfl := Option.some.inj sameWake
      rw [← isStandard] at same
      rw [hearTokens, hearTokens]
      split
      · exact outcome_hearAddressed_eq neutral same
      · rfl
  rw [parse, parse, hear, hear, isFirst, isSecond]
  exact sameOutcome

/-- A declaration in the pronunciation of the radio and in plain English. -/
theorem parse_eq_of_saysSame_radio :
    let controller : Controller := ⟨"magic".toList, .standard⟩
    let first := "Anyface, Eagle niner wun: declare bullseye tree six oh, fower ait, angels 2 fife"
    let second := "Anyface, Eagle nine-one: declare bullseye three six zero, four 8, angels 2 5"
    let heard := ["anyface", "eagle", "niner", "wun", "declare", "bullseye", "tree", "6", "oh",
      "fower", "ait", "angels", "2", "fife"].map String.toList
    let others := ["anyface", "eagle", "9", "1", "declare", "bullseye", "3", "6", "0",
      "4", "8", "angels", "2", "5"].map String.toList
    controller.vocabulary = .standard ∧ tokens first.toList = .ok heard ∧
      tokens second.toList = .ok others ∧ heard.head? = others.head? ∧
        List.Forall₂ Vocabulary.standard.SaysSame heard.tail others.tail ∧
          controller.parse first.toList = controller.parse second.toList := by
  have isFirst : tokens
      "Anyface, Eagle niner wun: declare bullseye tree six oh, fower ait, angels 2 fife".toList =
        .ok (["anyface", "eagle", "niner", "wun", "declare", "bullseye", "tree", "6", "oh",
          "fower", "ait", "angels", "2", "fife"].map String.toList) := by
    decide +kernel
  have isSecond : tokens
      "Anyface, Eagle nine-one: declare bullseye three six zero, four 8, angels 2 5".toList =
        .ok (["anyface", "eagle", "9", "1", "declare", "bullseye", "3", "6", "0",
          "4", "8", "angels", "2", "5"].map String.toList) := by
    decide +kernel
  have same : List.Forall₂ Vocabulary.standard.SaysSame
      (["anyface", "eagle", "niner", "wun", "declare", "bullseye", "tree", "6", "oh",
        "fower", "ait", "angels", "2", "fife"].map String.toList).tail
      (["anyface", "eagle", "9", "1", "declare", "bullseye", "3", "6", "0",
        "4", "8", "angels", "2", "5"].map String.toList).tail := by
    decide +kernel
  exact ⟨rfl, isFirst, isSecond, rfl, same, @parse_eq_of_saysSame _ _
    ⟨"magic".toList, .standard⟩ rfl _ _ isFirst isSecond rfl same⟩

end Controller

end RadioCall
