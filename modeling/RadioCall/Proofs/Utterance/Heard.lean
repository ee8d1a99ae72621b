/-
This file shows that requests are heard as they are spoken. Bringing an utterance into
tokens turns English digits into numerals, which are digit words too, and leaves all else
alone. So what is heard is an utterance of the same request, and its tokens are understood
as the request.
-/

import RadioCall.Proofs.Transmission
import RadioCall.Proofs.Utterance.Understood

namespace RadioCall

/-! ### Words of the standard vocabulary -/

namespace Vocabulary

/-- The words for digits are heard as words for the same digits. -/
theorem standard_digits_heard : ∀ entry ∈ standard.digits,
    IsSimpleToken entry.1 ∧ (heardAs entry.1, entry.2) ∈ standard.digits := by decide +kernel

/-- The words of the phrases are heard as they stand. -/
theorem standard_phrases_heard : ∀ trigger ∈ standard.triggers, ∀ token ∈ trigger.phrase,
    IsSimpleToken token ∧ heardAs token = token := by decide +kernel

/-- The words for categories are heard as they stand. -/
theorem standard_categories_heard : ∀ entry ∈ standard.categories,
    IsSimpleToken entry.1 ∧ heardAs entry.1 = entry.1 := by decide +kernel

theorem bullseyeWord_heard : IsSimpleToken bullseyeWord ∧ heardAs bullseyeWord = bullseyeWord := by
  decide +kernel

theorem standard_universalAlias_isKeptToken : IsKeptToken standard.universalAlias := by
  have heard : tokens standard.universalAlias = .ok [standard.universalAlias] := by decide +kernel
  exact isKeptToken_of_tokens heard

end Vocabulary

/-! ### What is heard of an utterance -/

namespace Utterance

/-- A word as it is heard, with its digit. -/
def heardEntry (entry : Text × Digit) : Text × Digit :=
  (heardAs entry.1, entry.2)

/-- An utterance as it is heard, given what is heard of the first word for a digit. -/
def heard (utterance : Utterance) (first : Text) : Utterance :=
  { utterance with
    callsign := (utterance.callsign.head?.map fun entry => (first, entry.2)).toList ++
      utterance.callsign.tail.map heardEntry
    bearing := utterance.bearing.map heardEntry }

theorem AreListed.map_heardEntry {spelled : List (Text × Digit)}
    (listed : AreListed .standard spelled) : AreListed .standard (spelled.map heardEntry) := by
  intro entry member
  obtain ⟨source, isSource, rfl⟩ := List.mem_map.mp member
  exact (Vocabulary.standard_digits_heard source (listed source isSource)).2

theorem SpellsBearing.heard {utterance : Utterance} {bearing : Int}
    (spells : utterance.SpellsBearing .standard bearing) (first : Text) :
    (utterance.heard first).SpellsBearing .standard bearing := by
  constructor
  · exact spells.listed.map_heardEntry
  · rw [Utterance.heard, List.length_map, spells.three]
  · rw [spells.spelled, Utterance.heard, List.map_map]
    rfl

theorem FitsFields.heard {utterance : Utterance} {request : Request}
    (fits : utterance.FitsFields .standard request) (first : Text) :
    (utterance.heard first).FitsFields .standard request := by
  cases request with
  | alphaCheck callsign => trivial
  | bogeyDope callsign filter => exact fits
  | declare callsign bra isBullseye => exact SpellsBearing.heard fits first
  | picture callsign radius => trivial
  | radioCheck callsign => trivial
  | spiked callsign bearing => exact SpellsBearing.heard fits first
  | snaplock callsign bra => exact SpellsBearing.heard fits first

/-- What is heard of an utterance speaks the same request. -/
theorem Speaks.heard {controller : Controller} (isStandard : controller.vocabulary = .standard)
    {utterance : Utterance} {request : Request} (speaks : utterance.Speaks controller request)
    {entry : Text × Digit} {rest : List (Text × Digit)}
    (isCallsign : utterance.callsign = entry :: rest)
    {first : Text} (isFirst : first = entry.1 ∨ first = heardAs entry.1) :
    (utterance.heard first).Speaks controller request := by
  obtain ⟨callsign, vocabulary⟩ := controller
  obtain rfl : vocabulary = .standard := isStandard
  have listed : AreListed .standard (entry :: rest) := isCallsign ▸ speaks.listed
  have heardCallsign :
      (utterance.heard first).callsign = (first, entry.2) :: rest.map heardEntry := by
    rw [Utterance.heard, isCallsign]
    rfl
  have isEntry := listed entry List.mem_cons_self
  constructor
  · exact speaks.wakes
  · exact speaks.isWord
  · exact speaks.unchanged
  · exact speaks.notDigitWord
  · exact speaks.notPhrase
  · rw [heardCallsign]
    exact List.cons_ne_nil _ _
  · rw [heardCallsign]
    refine List.forall_mem_cons.mpr ⟨?_, AreListed.map_heardEntry fun other member =>
      listed other (List.mem_cons_of_mem _ member)⟩
    rcases isFirst with rfl | rfl
    · exact isEntry
    · exact (Vocabulary.standard_digits_heard entry isEntry).2
  · rw [heardCallsign, speaks.callsign, isCallsign, List.map_cons, List.map_cons, List.map_map]
    rfl
  · exact speaks.announced
  · exact speaks.fields.heard first

/-- The words for digits are simple tokens. -/
theorem AreListed.isSimpleToken {spelled : List (Text × Digit)}
    (listed : AreListed .standard spelled) :
    ∀ token ∈ spelled.map Prod.fst, IsSimpleToken token := by
  intro token member
  obtain ⟨entry, isEntry, rfl⟩ := List.mem_map.mp member
  exact (Vocabulary.standard_digits_heard entry (listed entry isEntry)).1

theorem map_heardAs_fst (spelled : List (Text × Digit)) :
    (spelled.map Prod.fst).map heardAs = (spelled.map heardEntry).map Prod.fst := by
  rw [List.map_map, List.map_map]
  rfl

/-- The tokens of a location are simple, and the numerals are heard as they stand. -/
theorem braTokens_heard {utterance : Utterance} {bra : Bra}
    (spells : utterance.SpellsBearing .standard bra.bearing) (spoken : bra.CanBeSpoken)
    (first : Text) :
    (∀ token ∈ utterance.braTokens bra, IsSimpleToken token) ∧
      (utterance.braTokens bra).map heardAs = (utterance.heard first).braTokens bra := by
  obtain ⟨bearing, range, altitude⟩ := bra
  obtain ⟨range, rfl⟩ := Int.eq_ofNat_of_zero_le spoken.range.nonnegative
  obtain ⟨altitude, rfl⟩ := Int.eq_ofNat_of_zero_le spoken.altitude.nonnegative
  constructor
  · intro token member
    rcases List.mem_append.mp member with inBearing | inNumbers
    · exact spells.listed.isSimpleToken token inBearing
    · rcases List.mem_cons.mp inNumbers with rfl | isAltitude
      · exact (isSimpleToken_decimal range).1
      · rw [List.mem_singleton.mp isAltitude]
        exact (isSimpleToken_decimal altitude).1
  · have numbers :
        [decimal range, decimal altitude].map heardAs = [decimal range, decimal altitude] := by
      rw [List.map_cons, List.map_singleton, (isSimpleToken_decimal range).2,
        (isSimpleToken_decimal altitude).2]
    show (utterance.bearing.map Prod.fst ++ [decimal range, decimal altitude]).map heardAs =
      (utterance.bearing.map heardEntry).map Prod.fst ++ [decimal range, decimal altitude]
    rw [List.map_append, map_heardAs_fst, numbers]

/-- The tokens of the fields are simple, and heard as those of the utterance that is heard. -/
theorem fieldTokens_heard {utterance : Utterance} {request : Request}
    (fits : utterance.FitsFields .standard request) (spoken : request.CanBeSpoken) (first : Text) :
    (∀ token ∈ utterance.fieldTokens request, IsSimpleToken token) ∧
      (utterance.fieldTokens request).map heardAs =
        (utterance.heard first).fieldTokens request := by
  cases request with
  | alphaCheck callsign => exact ⟨List.forall_mem_nil _, rfl⟩
  | radioCheck callsign => exact ⟨List.forall_mem_nil _, rfl⟩
  | bogeyDope callsign filter =>
    rcases fits with ⟨noWord, _⟩ | ⟨word, isWord, listed⟩
    · simp [Utterance.fieldTokens, Utterance.heard, noWord]
    · have isHeard := Vocabulary.standard_categories_heard _ listed
      simpa [Utterance.fieldTokens, Utterance.heard, isWord] using isHeard
  | picture callsign radius =>
    cases radius with
    | none => exact ⟨List.forall_mem_nil _, rfl⟩
    | some miles =>
      obtain ⟨number, rfl⟩ := Int.eq_ofNat_of_zero_le (spoken miles rfl).nonnegative
      obtain ⟨isSimple, isHeard⟩ := isSimpleToken_decimal number
      exact ⟨List.forall_mem_singleton.mpr isSimple, congrArg (fun token => [token]) isHeard⟩
  | spiked callsign bearing =>
    exact ⟨fits.listed.isSimpleToken, map_heardAs_fst utterance.bearing⟩
  | declare callsign bra isBullseye =>
    obtain ⟨simple, isHeard⟩ := braTokens_heard fits spoken first
    cases isBullseye with
    | false => exact ⟨simple, isHeard⟩
    | true =>
      obtain ⟨keywordSimple, keywordHeard⟩ := Vocabulary.bullseyeWord_heard
      refine ⟨List.forall_mem_cons.mpr ⟨keywordSimple, simple⟩, ?_⟩
      show heardAs bullseyeWord :: (utterance.braTokens bra).map heardAs = _
      rw [keywordHeard, isHeard]
      rfl
  | snaplock callsign bra => exact braTokens_heard fits spoken first

/-- The tokens that are heard of an utterance are those of an utterance of the same request. -/
theorem Speaks.exists_heard {given : Text} {controller : Controller}
    (named : Controller.ofCallsign given .standard = .ok controller) {utterance : Utterance}
    {request : Request} (speaks : utterance.Speaks controller request)
    (spoken : request.CanBeSpoken) :
    ∃ heard : Utterance, heard.Speaks controller request ∧
      RadioCall.tokens (sentence (utterance.tokens request)) = .ok (heard.tokens request) := by
  obtain ⟨isName, isStandard⟩ := Controller.ofCallsign_eq_ok_iff.mp named
  have keptWake : IsKeptToken utterance.wake := by
    rcases speaks.wakes with isCallsign | isAlias
    · rw [isCallsign]
      exact isKeptToken_of_tokens isName
    · rw [isAlias, isStandard]
      exact Vocabulary.standard_universalAlias_isKeptToken
  have keptWord := isKeptToken_of_sanitize speaks.isWord speaks.unchanged
  have listed := speaks.listed
  have announced := speaks.announced
  have fits := speaks.fields
  rw [isStandard] at listed announced fits
  obtain ⟨entry, rest, isCallsign⟩ := List.exists_cons_of_ne_nil speaks.hasDigits
  have phrase := Vocabulary.standard_phrases_heard _ announced
  have simple : ∀ token ∈ utterance.callsign.map Prod.fst ++ utterance.phrase ++
      utterance.fieldTokens request, IsSimpleToken token := by
    intro token member
    rcases List.mem_append.mp member with inFront | inFields
    · rcases List.mem_append.mp inFront with inCallsign | inPhrase
      · exact listed.isSimpleToken token inCallsign
      · exact (phrase token inPhrase).1
    · exact (fieldTokens_heard fits spoken []).1 token inFields
  have split (utterance : Utterance) {entry : Text × Digit} {rest : List (Text × Digit)}
      (isCallsign : utterance.callsign = entry :: rest) : utterance.tokens request =
        utterance.wake :: utterance.word :: entry.1 ::
          (rest.map Prod.fst ++ utterance.phrase ++ utterance.fieldTokens request) := by
    rw [Utterance.tokens, isCallsign]
    rfl
  rw [isCallsign, List.map_cons, List.cons_append, List.cons_append] at simple
  obtain ⟨first, isFirst, isHeard⟩ := tokens_sentence keptWake keptWord simple
  refine ⟨utterance.heard first, speaks.heard isStandard isCallsign isFirst, ?_⟩
  have heardCallsign :
      (utterance.heard first).callsign = (first, entry.2) :: rest.map heardEntry := by
    rw [Utterance.heard, isCallsign]
    rfl
  have phraseHeard : utterance.phrase.map heardAs = utterance.phrase :=
    (List.map_congr_left fun token member => (phrase token member).2).trans (List.map_id _)
  have restHeard :
      (rest.map Prod.fst ++ utterance.phrase ++ utterance.fieldTokens request).map heardAs =
        (rest.map heardEntry).map Prod.fst ++ utterance.phrase ++
          (utterance.heard first).fieldTokens request := by
    rw [List.map_append, List.map_append, map_heardAs_fst, phraseHeard,
      (fieldTokens_heard fits spoken first).2]
  rw [split utterance isCallsign, split _ heardCallsign, isHeard, restHeard]
  rfl

/-- A request that is spoken to a controller with the standard vocabulary is accepted as it
was meant, whichever of the possible words were chosen for it. -/
theorem parse_of_speaks {given : Text} {controller : Controller}
    (named : Controller.ofCallsign given .standard = .ok controller) {utterance : Utterance}
    {request : Request} (speaks : utterance.Speaks controller request)
    (spoken : request.CanBeSpoken) :
    controller.parse (sentence (utterance.tokens request)) = .ok (.accepted request) := by
  have isStandard := (Controller.ofCallsign_eq_ok_iff.mp named).2
  obtain ⟨heard, heardSpeaks, isHeard⟩ := speaks.exists_heard named spoken
  have understood := heardSpeaks.hearTokens isStandard spoken
  refine map_eq_ok_iff.mpr ⟨.understood request, ?_, rfl⟩
  exact bind_eq_ok_iff.mpr ⟨heard.tokens request, isHeard, understood⟩

/-- A callsign may begin with a scale, which then keeps the first digit after it a word. -/
theorem parse_of_speaks_hundred :
    let controller : Controller := ⟨"magic".toList, .standard⟩
    let utterance : Utterance :=
      { wake := "anyface".toList
        word := "hundred".toList
        callsign := [("one".toList, 1), ("tree".toList, 3)]
        phrase := ["snap".toList, "lock".toList]
        bearing := [("zero".toList, 0), ("nine".toList, 9), ("niner".toList, 9)]
        filter := none }
    let request : Request := .snaplock "hundred 1 3".toList ⟨99, 5, 12000⟩
    Controller.ofCallsign "Magic".toList .standard = .ok controller ∧
      utterance.Speaks controller request ∧ request.CanBeSpoken ∧
        controller.parse (sentence (utterance.tokens request)) = .ok (.accepted request) := by
  intro controller utterance request
  have named : Controller.ofCallsign "Magic".toList .standard = .ok controller := by decide +kernel
  have spells : utterance.SpellsBearing .standard 99 := by
    constructor
    · show ∀ entry ∈ utterance.bearing, entry ∈ Vocabulary.standard.digits
      decide
    · rfl
    · rfl
  have speaks : utterance.Speaks controller request := by
    constructor
    · exact .inr rfl
    · decide
    · show sanitize "hundred".toList = .ok "hundred".toList
      decide +kernel
    · decide
    · decide
    · decide
    · show ∀ entry ∈ utterance.callsign, entry ∈ Vocabulary.standard.digits
      decide
    · rfl
    · decide
    · exact spells
  have spoken : request.CanBeSpoken := by
    refine ⟨⟨?_, ?_⟩, ⟨?_, ?_⟩, ⟨?_, ?_⟩, ?_⟩ <;> decide
  exact ⟨named, speaks, spoken, parse_of_speaks named speaks spoken⟩

end Utterance

end RadioCall
