/-
This file says what reading the fields of a request gives. A request that is read is of
the kind that was announced, carries the callsign that was decoded, and its values are in
range. A request is refused only if a bearing or a location is asked for, and reading
faults only where a number is due and stands there as a numeral with too many digits.
-/

import RadioCall.Controller
import RadioCall.Proofs.Checked
import RadioCall.Proofs.Reading

namespace RadioCall

/-! ### Values in range -/

/-- Whether the values of a location can be flown: a bearing below a full turn, and a range
and an altitude that are not negative. -/
structure Bra.IsInRange (bra : Bra) : Prop where
  bearing : 0 ≤ bra.bearing ∧ bra.bearing ≤ 359
  range : 0 ≤ bra.range
  altitude : 0 ≤ bra.altitude

/-- Whether the values of a request are in range. -/
def Request.IsInRange : Request → Prop
  | .declare _ bra _ => bra.IsInRange
  | .picture _ radius => ∀ miles ∈ radius, 0 ≤ miles
  | .spiked _ bearing => 0 ≤ bearing ∧ bearing ≤ 359
  | .snaplock _ bra => bra.IsInRange
  | _ => True

theorem BraPhrase.value_isInRange (vocabulary : Vocabulary) (phrase : BraPhrase) :
    (phrase.value vocabulary).IsInRange := by
  constructor
  · simp only [BraPhrase.value]
    omega
  · exact Int.natCast_nonneg _
  · exact Int.natCast_nonneg _

/-! ### Requests that are read -/

/-- The kinds of request with a field that must be spoken. -/
def requestsWithFields : List RequestWord :=
  [.declare, .spiked, .snaplock]

namespace Vocabulary

variable {vocabulary : Vocabulary} {word : RequestWord} {callsign : Text} {tokens : List Text}

/-- A request that is read is the one that was announced, for the aircraft that called, with
values in range. -/
theorem readRequest_ensures {request : Request}
    (read : vocabulary.readRequest word callsign tokens = .ok (some request)) :
    request.word = word ∧ request.callsign = callsign ∧ request.IsInRange := by
  cases word with
  | alphaCheck =>
    obtain rfl := Option.some.inj (Except.ok.inj read)
    exact ⟨rfl, rfl, trivial⟩
  | radioCheck =>
    obtain rfl := Option.some.inj (Except.ok.inj read)
    exact ⟨rfl, rfl, trivial⟩
  | bogeyDope =>
    obtain rfl := Option.some.inj (Except.ok.inj read)
    exact ⟨rfl, rfl, trivial⟩
  | picture =>
    rw [readRequest] at read
    split at read
    · obtain ⟨radius, _, same⟩ := map_eq_ok_iff.mp read
      obtain rfl := Option.some.inj same
      refine ⟨rfl, rfl, fun miles member => ?_⟩
      obtain ⟨number, _, rfl⟩ := Option.map_eq_some_iff.mp member
      exact Int.natCast_nonneg number
    · obtain rfl := Option.some.inj (Except.ok.inj read)
      exact ⟨rfl, rfl, fun _ member => by cases member⟩
  | spiked =>
    obtain ⟨bearing, isBearing, same⟩ := map_eq_ok_iff.mp read
    obtain ⟨degrees, rfl, rfl⟩ := Option.map_eq_some_iff.mp same
    obtain ⟨_, _, _, _, rfl⟩ :=
      readBearing_eq_found_iff.mp (Reading.eq_found_of_result isBearing)
    refine ⟨rfl, rfl, ?_⟩
    simp only [Request.IsInRange, Int.ofNat_eq_natCast]
    omega
  | declare =>
    obtain ⟨bra, isBra, same⟩ := map_eq_ok_iff.mp read
    obtain ⟨location, rfl, rfl⟩ := Option.map_eq_some_iff.mp same
    obtain ⟨phrase, _, _, rfl⟩ := readBra_result_eq_some_iff.mp isBra
    exact ⟨rfl, rfl, phrase.value_isInRange vocabulary⟩
  | snaplock =>
    obtain ⟨bra, isBra, same⟩ := map_eq_ok_iff.mp read
    obtain ⟨location, rfl, rfl⟩ := Option.map_eq_some_iff.mp same
    obtain ⟨phrase, _, _, rfl⟩ := readBra_result_eq_some_iff.mp isBra
    exact ⟨rfl, rfl, phrase.value_isInRange vocabulary⟩

/-- Only a request with a field that must be spoken is refused. -/
theorem mem_requestsWithFields_of_refused
    (refused : vocabulary.readRequest word callsign tokens = .ok none) :
    word ∈ requestsWithFields := by
  cases word with
  | declare => decide
  | spiked => decide
  | snaplock => decide
  | alphaCheck => cases refused
  | radioCheck => cases refused
  | bogeyDope => cases refused
  | picture =>
    rw [readRequest] at refused
    split at refused
    · obtain ⟨_, _, impossible⟩ := map_eq_ok_iff.mp refused
      cases impossible
    · cases refused

/-! ### Requests that cannot be read -/

/-- Whether a request is due whose fields cannot be read: a numeral that is too long stands
for the radius of a picture, or for a number in the location of a contact. -/
def RequestTooLong (vocabulary : Vocabulary) (digits : Nat) (tokens : List Text) :
    RequestWord → Prop
  | .picture => NumberTooLong digits tokens
  | .declare => BraTooLong vocabulary digits (readKeyword bullseyeWord tokens).2
  | .snaplock => BraTooLong vocabulary digits tokens
  | _ => False

theorem isNumber_of_numberTooLong {digits : Nat} (tooLong : NumberTooLong digits tokens) :
    tokens.head?.any vocabulary.isNumber := by
  obtain ⟨token, rest, rfl, isNumeral, _⟩ := tooLong
  simp [isNumber, isNumeral]

/-- Reading a request faults exactly if a numeral of its fields is too long. -/
theorem readRequest_eq_error_iff {fault : Fault} :
    vocabulary.readRequest word callsign tokens = .error fault ↔
      ∃ digits, RequestTooLong vocabulary digits tokens word ∧ fault = .numeralTooLong digits := by
  cases word with
  | alphaCheck => simp [readRequest, RequestTooLong]
  | radioCheck => simp [readRequest, RequestTooLong]
  | bogeyDope => simp [readRequest, RequestTooLong]
  | picture =>
    rw [readRequest]
    split
    · exact map_eq_error_iff.trans readNumber_result_eq_error_iff
    · next notNumber =>
      constructor
      · intro impossible
        cases impossible
      · rintro ⟨digits, tooLong, _⟩
        exact absurd (isNumber_of_numberTooLong tooLong) notNumber
  | spiked =>
    constructor
    · exact fun fails => absurd (map_eq_error_iff.mp fails) (readBearing_result_ne_error _ _)
    · rintro ⟨_, impossible, _⟩
      exact impossible.elim
  | declare => exact map_eq_error_iff.trans readBra_result_eq_error_iff
  | snaplock => exact map_eq_error_iff.trans readBra_result_eq_error_iff

end Vocabulary

end RadioCall
