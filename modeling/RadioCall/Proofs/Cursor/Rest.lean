/-
This file says what the readers leave of the tokens that they meet: an end of them, whether the
field is found, missed midway or ended by a fault. So a reader takes tokens from the front only,
and those it took are followed by those it left.
-/

import RadioCall.Proofs.Reading

namespace RadioCall

/-- Reading on leaves an end of the tokens if the first reading does, and the second leaves an end
of what the first one left. -/
theorem Reading.andThen_rest_isSuffix {α β : Type} {reading : Reading α}
    {next : α → List Text → Reading β} {tokens : List Text} (first : reading.rest <:+ tokens)
    (second : ∀ value rest, (next value rest).rest <:+ rest) :
    (reading.andThen next).rest <:+ tokens := by
  obtain ⟨result, rest⟩ := reading
  match result with
  | .ok (some value) => exact (second value rest).trans first
  | .ok none => exact first
  | .error _ => exact first

theorem readKeyword_snd_isSuffix (keyword : Text) (tokens : List Text) :
    (readKeyword keyword tokens).2 <:+ tokens := by
  rcases readKeyword_cases keyword tokens with ⟨rest, rfl, isNext⟩ | ⟨_, isNext⟩
  · rw [isNext]
    exact List.suffix_cons keyword rest
  · rewrite [isNext]
    exact List.suffix_rfl

namespace Vocabulary

variable {vocabulary : Vocabulary}

theorem bearingDigits_rest_isSuffix (digits : List Digit) (tokens : List Text) :
    (vocabulary.bearingDigits digits tokens).rest <:+ tokens := by
  induction tokens generalizing digits with
  | nil =>
    rw [bearingDigits]
    split <;> exact List.suffix_rfl
  | cons token rest ih =>
    rw [bearingDigits]
    split
    · exact List.suffix_rfl
    · split
      · exact List.suffix_cons token rest
      · exact (ih _).trans (List.suffix_cons token rest)

theorem readBearing_rest_isSuffix (tokens : List Text) :
    (vocabulary.readBearing tokens).rest <:+ tokens := by
  refine Reading.andThen_rest_isSuffix (bearingDigits_rest_isSuffix [] tokens) ?_
  intro digits rest
  split <;> exact List.suffix_rfl

theorem readNumber_rest_isSuffix (tokens : List Text) :
    (vocabulary.readNumber tokens).rest <:+ tokens := by
  cases tokens with
  | nil => exact List.suffix_rfl
  | cons token rest =>
    have behind : rest <:+ token :: rest := List.suffix_cons token rest
    by_cases long : isLongNumeral token
    · rw [readNumber_cons_of_isLongNumeral long]
      split <;> exact behind
    · by_cases isDigit : vocabulary.isDigitWord token
      · rw [readNumber_cons_of_isDigitWord long isDigit]
        exact (List.dropWhile_suffix _).trans behind
      · rw [readNumber_cons_of_other long isDigit]
        exact behind

theorem readAltitude_rest_isSuffix (tokens : List Text) :
    (vocabulary.readAltitude tokens).rest <:+ tokens := by
  rcases readKeyword_cases angelsWord tokens with ⟨rest, rfl, _⟩ | ⟨other, _⟩
  · rw [readAltitude_angels]
    exact Reading.andThen_rest_isSuffix
      ((readNumber_rest_isSuffix rest).trans (List.suffix_cons angelsWord rest))
      fun _ _ => List.suffix_rfl
  · rw [readAltitude_of_head?_ne other]
    refine Reading.andThen_rest_isSuffix (readNumber_rest_isSuffix tokens) fun number rest => ?_
    have left := readKeyword_snd_isSuffix thousandWord rest
    split
    all_goals next isNext => rwa [isNext] at left

end Vocabulary

end RadioCall
