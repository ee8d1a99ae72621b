/-
This file shows that the tokens of an utterance are understood as its request. No phrase
ends before the one that is spoken does: the words for digits end none, and neither does
the word in front of them. So the phrase is the one that counts, the callsign stands before
it and the fields behind it.
-/

import Mathlib.Data.List.Basic
import RadioCall.Proofs.Outcome
import RadioCall.Proofs.Utterance.Fields

namespace RadioCall

/-! ### Where phrases end -/

/-- Phrases that are told apart by their ends: none ends inside of another, those that end
alike are equally long, and no digit word is part of one. -/
structure HaveClearEnds (vocabulary : Vocabulary) : Prop where
  nonempty : ∀ trigger ∈ vocabulary.triggers, trigger.phrase ≠ []
  inside : ∀ trigger ∈ vocabulary.triggers, ∀ other ∈ vocabulary.triggers,
    ∀ token ∈ trigger.phrase.dropLast, other.phrase.getLast? ≠ some token
  alike : ∀ trigger ∈ vocabulary.triggers, ∀ other ∈ vocabulary.triggers,
    other.phrase.getLast? = trigger.phrase.getLast? → other.phrase.length ≤ trigger.phrase.length
  notDigits : ∀ trigger ∈ vocabulary.triggers, ∀ token ∈ trigger.phrase,
    ¬vocabulary.isDigitWord token

theorem standard_haveClearEnds : HaveClearEnds .standard := by
  constructor
  · decide
  · decide
  · decide
  · decide

/-- The last token of a list is that of every end of it. -/
theorem getLast?_of_isSuffix {phrase tokens : List Text} (suffix : phrase <:+ tokens)
    (nonempty : phrase ≠ []) : phrase.getLast? = tokens.getLast? := by
  obtain ⟨before, rfl⟩ := suffix
  rw [List.getLast?_append_of_ne_nil _ nonempty]

variable {vocabulary : Vocabulary} (clear : HaveClearEnds vocabulary)

include clear

/-- A word that is no phrase and digit words after it end no phrase. -/
theorem not_endsAt_callsign {word : Text}
    (notPhrase : ∀ trigger ∈ vocabulary.triggers, trigger.phrase ≠ [word]) {digits : List Text}
    (areDigits : ∀ token ∈ digits, vocabulary.isDigitWord token) {other : Trigger}
    (listed : other ∈ vocabulary.triggers) (ending : Nat) :
    ¬EndsAt other (word :: digits) ending := by
  intro ends
  have nonempty := clear.nonempty other listed
  have suffix := ends.2
  cases ending with
  | zero => exact nonempty (List.suffix_nil.mp suffix)
  | succ count =>
    rw [List.take_succ_cons] at suffix
    by_cases none : digits.take count = []
    · rw [none] at suffix
      rcases List.suffix_cons_iff.mp suffix with isWord | inNothing
      · exact notPhrase other listed isWord
      · exact nonempty (List.suffix_nil.mp inNothing)
    · obtain ⟨init, last, isTaken⟩ := (List.eq_nil_or_concat' _).resolve_left none
      have isLast := getLast?_of_isSuffix suffix nonempty
      rw [isTaken, ← List.cons_append, List.getLast?_concat] at isLast
      have inTaken : last ∈ digits.take count :=
        isTaken ▸ List.mem_append_right _ List.mem_cons_self
      have inDigits : last ∈ digits := List.mem_of_mem_take inTaken
      exact clear.notDigits other listed last (List.mem_of_getLast? isLast)
        (areDigits last inDigits)

/-- A phrase behind tokens that end none is the trigger that counts. -/
theorem selects_of_not_endsAt {trigger : Trigger} (listed : trigger ∈ vocabulary.triggers)
    {segment : List Text}
    (unheard : ∀ other ∈ vocabulary.triggers, ∀ ending, ¬EndsAt other segment ending)
    (rest : List Text) :
    Selects vocabulary.triggers (segment ++ trigger.phrase ++ rest)
      (segment ++ trigger.phrase).length trigger := by
  constructor
  · exact listed
  · refine ⟨(List.prefix_append _ rest).length_le, segment, ?_⟩
    rw [List.take_left]
  · intro earlier before other otherListed ends
    have suffix := ends.2
    rw [List.take_append_of_le_length (Nat.le_of_lt before)] at suffix
    by_cases within : earlier ≤ segment.length
    · rw [List.take_append_of_le_length within] at suffix
      exact unheard other otherListed earlier ⟨within, suffix⟩
    · -- The end lies inside of the phrase, so its token is not the last one.
      have beyond := Nat.lt_of_not_le within
      rw [List.length_append] at before
      obtain ⟨count, rfl⟩ := Nat.exists_eq_add_of_lt beyond
      have inFront : trigger.phrase.take (count + 1) ≠ [] := by
        intro none
        have length := congrArg List.length none
        rw [List.length_take, List.length_nil] at length
        omega
      obtain ⟨init, last, isTaken⟩ := (List.eq_nil_or_concat' _).resolve_left inFront
      have isLast := getLast?_of_isSuffix suffix (clear.nonempty other otherListed)
      rw [Nat.add_assoc, List.take_length_add_append, isTaken, ← List.append_assoc,
        List.getLast?_concat] at isLast
      refine clear.inside trigger listed other otherListed last ?_ isLast
      have isPrefix : trigger.phrase.take (count + 1) <+: trigger.phrase.dropLast := by
        rw [List.dropLast_eq_take]
        exact List.take_prefix_take_left (by omega)
      exact isPrefix.subset (isTaken ▸ List.mem_append_right _ List.mem_cons_self)
  · intro other otherListed ends
    have suffix := ends.2
    rw [List.take_left] at suffix
    refine clear.alike trigger listed other otherListed ?_
    rw [getLast?_of_isSuffix suffix (clear.nonempty other otherListed),
      List.getLast?_append_of_ne_nil _ (clear.nonempty trigger listed)]

omit clear

/-! ### Understood utterances -/

namespace Utterance

/-- The tokens of an utterance are understood as its request. -/
theorem Speaks.hearTokens {controller : Controller} (isStandard : controller.vocabulary = .standard)
    {utterance : Utterance} {request : Request} (speaks : utterance.Speaks controller request)
    (spoken : request.CanBeSpoken) :
    controller.hearTokens (utterance.tokens request) = .ok (.understood request) := by
  obtain ⟨callsign, vocabulary⟩ := controller
  obtain rfl : vocabulary = .standard := isStandard
  let trigger : Trigger := ⟨utterance.phrase, request.word⟩
  let segment : List Text := utterance.word :: utterance.callsign.map Prod.fst
  have spells := Vocabulary.standard_digit?_of_mem speaks.listed
  have areDigits : ∀ token ∈ utterance.callsign.map Prod.fst,
      Vocabulary.standard.isDigitWord token := by
    intro token member
    obtain ⟨entry, inCallsign, rfl⟩ := List.mem_map.mp member
    rw [Vocabulary.isDigitWord, spells entry inCallsign]
    rfl
  have selects : Selects Vocabulary.standard.triggers
      (segment ++ trigger.phrase ++ utterance.fieldTokens request)
      (segment ++ trigger.phrase).length trigger :=
    selects_of_not_endsAt standard_haveClearEnds speaks.announced
      (fun other listed =>
        not_endsAt_callsign standard_haveClearEnds speaks.notPhrase areDigits listed)
      (utterance.fieldTokens request)
  have isTail : (utterance.tokens request).tail =
      segment ++ trigger.phrase ++ utterance.fieldTokens request := rfl
  have addressed : Controller.IsAddressed ⟨callsign, .standard⟩ (utterance.tokens request) :=
    speaks.wakes.imp (congrArg some) (congrArg some)
  have isSegment : Controller.segmentBefore (utterance.tokens request)
      (segment ++ trigger.phrase).length trigger = segment := by
    rw [Controller.segmentBefore, isTail, List.length_append, Nat.add_sub_cancel, List.append_assoc,
      List.take_left]
  have isCallsign : Vocabulary.standard.decodeCallsign segment = ⟨request.callsign, true⟩ := by
    rw [speaks.callsign]
    exact Vocabulary.decodeCallsign_of_spells spells speaks.notDigitWord speaks.hasDigits
  rw [Controller.hearTokens_of_selects Vocabulary.standard_haveOwnedPhrases
    Vocabulary.standard_areLongestFirst addressed (isTail ▸ selects), isSegment, isTail,
      List.drop_left]
  simp only [isCallsign, if_true]
  rw [Vocabulary.readRequest_fieldTokens speaks.fields spoken]
  rfl

end Utterance

end RadioCall
