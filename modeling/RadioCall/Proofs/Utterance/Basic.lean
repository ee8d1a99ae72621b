/-
This file says how a request is spoken. An utterance holds the words that are chosen where
there is a choice: the wake word, the words for the digits of the callsign and of a
bearing, the trigger phrase and the word for a filter. The other numbers of the request
are spoken as numerals.
-/

import RadioCall.Controller
import RadioCall.Proofs.Phrase
import RadioCall.Proofs.Text.Words

namespace RadioCall

/-! ### Values that can be spoken -/

/-- Whether a number has a numeral, without a sign and with no more digits than allowed. -/
structure HasNumeral (number : Int) : Prop where
  nonnegative : 0 ≤ number
  short : (signedDecimal number).length ≤ numeralLimit

/-- Whether a bearing is one of the 360 degrees. -/
def IsBearing (bearing : Int) : Prop :=
  0 ≤ bearing ∧ bearing ≤ 359

/-- Whether a location can be spoken. An altitude has two digits or more: a single one would
be taken for another digit of the range. -/
structure Bra.CanBeSpoken (bra : Bra) : Prop where
  bearing : IsBearing bra.bearing
  range : HasNumeral bra.range
  altitude : HasNumeral bra.altitude
  highEnough : 10 ≤ bra.altitude

/-- Whether the values of a request can be spoken. -/
def Request.CanBeSpoken : Request → Prop
  | .declare _ bra _ => bra.CanBeSpoken
  | .picture _ radius => ∀ miles ∈ radius, HasNumeral miles
  | .spiked _ bearing => IsBearing bearing
  | .snaplock _ bra => bra.CanBeSpoken
  | _ => True

/-! ### Utterances -/

/-- The words that are chosen for a request. A word for a digit stands with the digit. -/
structure Utterance where
  wake : Text
  word : Text
  callsign : List (Text × Digit)
  phrase : List Text
  bearing : List (Text × Digit)
  filter : Option Text
  deriving DecidableEq, Repr

namespace Utterance

/-- The tokens of a location. -/
def braTokens (utterance : Utterance) (bra : Bra) : List Text :=
  utterance.bearing.map Prod.fst ++ [signedDecimal bra.range, signedDecimal bra.altitude]

/-- The tokens of the fields of a request. -/
def fieldTokens (utterance : Utterance) : Request → List Text
  | .alphaCheck _ => []
  | .bogeyDope _ _ => utterance.filter.toList
  | .declare _ bra isBullseye =>
    if isBullseye then bullseyeWord :: utterance.braTokens bra else utterance.braTokens bra
  | .picture _ radius => radius.toList.map signedDecimal
  | .radioCheck _ => []
  | .spiked _ _ => utterance.bearing.map Prod.fst
  | .snaplock _ bra => utterance.braTokens bra

/-- The tokens of a request as it is spoken. -/
def tokens (utterance : Utterance) (request : Request) : List Text :=
  utterance.wake :: utterance.word ::
    (utterance.callsign.map Prod.fst ++ utterance.phrase ++ utterance.fieldTokens request)

/-! ### Utterances of a request -/

/-- Whether words are listed for the digits that they stand with. -/
def AreListed (vocabulary : Vocabulary) (spelled : List (Text × Digit)) : Prop :=
  ∀ entry ∈ spelled, entry ∈ vocabulary.digits

/-- Whether the words for a bearing are three, and spell it. -/
structure SpellsBearing (utterance : Utterance) (vocabulary : Vocabulary) (bearing : Int) :
    Prop where
  listed : AreListed vocabulary utterance.bearing
  three : utterance.bearing.length = 3
  spelled : bearing = positionalValue (utterance.bearing.map fun entry => entry.2.val)

/-- Whether the words for the fields are those of a request. -/
def FitsFields (utterance : Utterance) (vocabulary : Vocabulary) : Request → Prop
  | .bogeyDope _ filter =>
    (utterance.filter = none ∧ filter = .everything) ∨
      ∃ word, utterance.filter = some word ∧ (word, filter) ∈ vocabulary.categories
  | .declare _ bra _ => utterance.SpellsBearing vocabulary bra.bearing
  | .spiked _ bearing => utterance.SpellsBearing vocabulary bearing
  | .snaplock _ bra => utterance.SpellsBearing vocabulary bra.bearing
  | _ => True

/-- Whether an utterance speaks a request to a controller. -/
structure Speaks (utterance : Utterance) (controller : Controller) (request : Request) : Prop where
  wakes : utterance.wake = controller.callsign ∨
    utterance.wake = controller.vocabulary.universalAlias
  isWord : IsWord utterance.word
  /-- The word comes out as it went in when a transmission is brought into tokens. -/
  unchanged : sanitize utterance.word = .ok utterance.word
  notDigitWord : ¬controller.vocabulary.isDigitWord utterance.word
  notPhrase : ∀ trigger ∈ controller.vocabulary.triggers, trigger.phrase ≠ [utterance.word]
  hasDigits : utterance.callsign ≠ []
  listed : AreListed controller.vocabulary utterance.callsign
  callsign : request.callsign =
    sentence (utterance.word :: utterance.callsign.map fun entry => digitNumeral entry.2)
  announced : ⟨utterance.phrase, request.word⟩ ∈ controller.vocabulary.triggers
  fields : utterance.FitsFields controller.vocabulary request

end Utterance

end RadioCall
