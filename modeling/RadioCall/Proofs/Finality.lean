/-
This file says which outcomes are final, so that whatever is heard after them changes
nothing. Each stage of hearing commits itself to the tokens before a certain position: who
is addressed to the first token, the trigger to the first position where a phrase ends, the
callsign to the tokens before it, a bearing to its three digits and the category of a bogey
dope to the next token. An outcome is final once no stage looked at the end of the tokens.
-/

import RadioCall.Proofs.Outcome

namespace RadioCall

/-! ### Further tokens -/

/-- A phrase ends at a position whatever stands behind the position. -/
theorem endsAt_append_iff {trigger : Trigger} {heard : List Text} {ending : Nat}
    (within : ending ≤ heard.length) (more : List Text) :
    EndsAt trigger (heard ++ more) ending ↔ EndsAt trigger heard ending := by
  rw [EndsAt, EndsAt, List.take_append_of_le_length within, List.length_append]
  exact and_congr_left' ⟨fun _ => within, fun _ => Nat.le_add_right_of_le within⟩

/-- The trigger that counts goes on counting when more is heard. -/
theorem Selects.append {triggers : List Trigger} {heard : List Text} {ending : Nat}
    {trigger : Trigger} (selects : Selects triggers heard ending trigger) (more : List Text) :
    Selects triggers (heard ++ more) ending trigger := by
  have within : ending ≤ heard.length := selects.ends.1
  constructor
  · exact selects.listed
  · exact (endsAt_append_iff within more).mpr selects.ends
  · intro earlier before other member ends
    have stillWithin : earlier ≤ heard.length := Nat.le_trans (Nat.le_of_lt before) within
    exact selects.earliest earlier before other member ((endsAt_append_iff stillWithin more).mp ends)
  · intro other member ends
    exact selects.longest other member ((endsAt_append_iff within more).mp ends)

namespace Vocabulary

/-- A bearing is complete with its digits, so more tokens are left over. -/
theorem readBearing_append {vocabulary : Vocabulary} {heard rest : List Text} {bearing : Nat}
    (read : vocabulary.readBearing heard = .found bearing rest) (more : List Text) :
    vocabulary.readBearing (heard ++ more) = .found bearing (rest ++ more) := by
  obtain ⟨taken, degrees, rfl, spells, isBearing⟩ := readBearing_eq_found_iff.mp read
  exact readBearing_eq_found_iff.mpr
    ⟨taken, degrees, List.append_assoc taken rest more, spells, isBearing⟩

end Vocabulary

/-! ### Final outcomes -/

namespace Controller

/-- Whether an outcome stands whatever is heard next. A bogey dope is final only if its
category was looked for at a token, and not at the end of what was heard. -/
def IsFinal (controller : Controller) (heard : List Text) : Outcome → Prop
  | .notAddressed => True
  | .invalidCallsign => True
  | .accepted (.alphaCheck _) => True
  | .accepted (.radioCheck _) => True
  | .accepted (.spiked _ _) => True
  | .accepted (.bogeyDope _ _) =>
    ∃ ending trigger, Selects controller.vocabulary.triggers heard.tail ending trigger ∧
      ending < heard.tail.length
  | _ => False

variable {controller : Controller} {heard : List Text}

/-- The fields of a request with a final outcome are read in the same way from more tokens. -/
theorem readRequest_append_of_isFinal {ending : Nat} {trigger : Trigger}
    (selects : Selects controller.vocabulary.triggers heard.tail ending trigger)
    {callsign : Text} {request : Request}
    (read : controller.vocabulary.readRequest trigger.request callsign (heard.tail.drop ending) =
      .ok (some request))
    (final : controller.IsFinal heard (.accepted request)) (more : List Text) :
    controller.vocabulary.readRequest trigger.request callsign (heard.tail.drop ending ++ more) =
      .ok (some request) := by
  obtain ⟨isWord, _, _⟩ := Vocabulary.readRequest_ensures read
  rw [← isWord] at read ⊢
  cases request with
  | alphaCheck callsign => exact read
  | radioCheck callsign => exact read
  | spiked callsign bearing =>
    obtain ⟨found, isFound, same⟩ := map_eq_ok_iff.mp read
    obtain ⟨degrees, rfl, _⟩ := Option.map_eq_some_iff.mp same
    have stillFound :=
      Vocabulary.readBearing_append (Reading.eq_found_of_result isFound) more
    refine map_eq_ok_iff.mpr ⟨some degrees, ?_, same⟩
    rw [stillFound, Reading.found_result]
  | bogeyDope callsign filter =>
    obtain ⟨otherEnding, other, otherSelects, before⟩ := final
    rw [otherSelects.ending_unique selects] at before
    -- The category is looked for at the first token after the trigger, which is there.
    have sameHead : (heard.tail.drop ending ++ more).head? = (heard.tail.drop ending).head? := by
      rw [List.head?_append_of_ne_nil _ (List.drop_eq_nil_iff.not.mpr (Nat.not_le_of_lt before))]
    rw [Request.word, Vocabulary.readRequest] at read ⊢
    rw [sameHead]
    exact read
  | declare callsign bra isBullseye => exact final.elim
  | picture callsign radius => exact final.elim
  | snaplock callsign bra => exact final.elim

theorem isAddressed_append_iff (spoken : heard ≠ []) (more : List Text) :
    controller.IsAddressed (heard ++ more) ↔ controller.IsAddressed heard := by
  rw [IsAddressed, IsAddressed, List.head?_append_of_ne_nil _ spoken]

/-- Where a trigger counts, a final outcome comes of the tokens up to the end of its fields. -/
theorem hearTokens_append_of_selects
    (ownedPhrases : HaveOwnedPhrases controller.vocabulary.triggers)
    (longestFirst : AreLongestFirst controller.vocabulary.triggers)
    (spoken : heard ≠ []) (addressed : controller.IsAddressed heard) {ending : Nat}
    {trigger : Trigger}
    (selects : Selects controller.vocabulary.triggers heard.tail ending trigger)
    {hearing : Hearing} (understood : controller.hearTokens heard = .ok hearing)
    (final : controller.IsFinal heard hearing.outcome) (more : List Text) :
    controller.hearTokens (heard ++ more) = .ok hearing := by
  have tailAppend : (heard ++ more).tail = heard.tail ++ more := List.tail_append_of_ne_nil spoken
  have within : ending ≤ heard.tail.length := selects.ends.1
  have stillSelects :
      Selects controller.vocabulary.triggers (heard ++ more).tail ending trigger := by
    rw [tailAppend]
    exact selects.append more
  have sameSegment :
      segmentBefore (heard ++ more) ending trigger = segmentBefore heard ending trigger := by
    rw [segmentBefore, segmentBefore, tailAppend, List.take_append_of_le_length (by omega)]
  rw [hearTokens_of_selects ownedPhrases longestFirst
      ((isAddressed_append_iff spoken more).mpr addressed) stillSelects,
    sameSegment, tailAppend, List.drop_append_of_le_length within]
  rw [hearTokens_of_selects ownedPhrases longestFirst addressed selects] at understood
  simp only at understood ⊢
  split at understood
  · next valid =>
    rw [if_pos valid]
    obtain ⟨read, isRead, rfl⟩ := map_eq_ok_iff.mp understood
    cases read with
    | none => exact final.elim
    | some request =>
      exact map_eq_ok_iff.mpr ⟨some request,
        readRequest_append_of_isFinal selects isRead final more, rfl⟩
  · next notValid =>
    rw [if_neg notValid]
    exact understood

/-- Nothing that is heard after a final outcome changes what was understood. -/
theorem hearTokens_append (ownedPhrases : HaveOwnedPhrases controller.vocabulary.triggers)
    (longestFirst : AreLongestFirst controller.vocabulary.triggers)
    (spoken : heard ≠ []) {hearing : Hearing}
    (understood : controller.hearTokens heard = .ok hearing)
    (final : controller.IsFinal heard hearing.outcome) (more : List Text) :
    controller.hearTokens (heard ++ more) = .ok hearing := by
  by_cases addressed : controller.IsAddressed heard
  · rcases Vocabulary.scan_cases ownedPhrases longestFirst heard.tail with
      ⟨_, never⟩ | ⟨ending, trigger, selects, _⟩
    · rw [hearTokens_of_no_phrase ownedPhrases longestFirst addressed never] at understood
      obtain rfl := Except.ok.inj understood
      exact final.elim
    · exact hearTokens_append_of_selects ownedPhrases longestFirst spoken addressed selects
        understood final more
  · rw [hearTokens_of_not_isAddressed ((isAddressed_append_iff spoken more).not.mpr addressed),
      ← understood, hearTokens_of_not_isAddressed addressed]

/-- A final outcome of what was heard is the outcome of every longer transmission, for every
vocabulary that was accepted and every controller. -/
theorem final_outcome_stands {document : Document} {vocabulary : Vocabulary} {given : Text}
    {hearing : Hearing} (accepted : Vocabulary.ofDocument document = .ok vocabulary)
    (named : ofCallsign given vocabulary = .ok controller) (spoken : heard ≠ [])
    (understood : controller.hearTokens heard = .ok hearing)
    (final : controller.IsFinal heard hearing.outcome) (more : List Text) :
    controller.hearTokens (heard ++ more) = .ok hearing ∧
      ∀ text longer, tokens text = .ok heard → tokens longer = .ok (heard ++ more) →
        controller.parse text = .ok hearing.outcome ∧
          controller.parse longer = .ok hearing.outcome := by
  obtain ⟨_, rfl⟩ := ofCallsign_eq_ok_iff.mp named
  obtain ⟨ownedPhrases, longestFirst⟩ := Vocabulary.ofDocument_triggers accepted
  have stillUnderstood : controller.hearTokens (heard ++ more) = .ok hearing :=
    hearTokens_append ownedPhrases longestFirst spoken understood final more
  refine ⟨stillUnderstood, fun text longer isHeard isLonger => ⟨?_, ?_⟩⟩
  · exact map_eq_ok_iff.mpr ⟨hearing, bind_eq_ok_iff.mpr ⟨heard, isHeard, understood⟩, rfl⟩
  · exact map_eq_ok_iff.mpr
      ⟨hearing, bind_eq_ok_iff.mpr ⟨heard ++ more, isLonger, stillUnderstood⟩, rfl⟩

/-- A radar warning stands although the next tokens are digits as well. -/
theorem final_outcome_stands_spiked :
    let controller : Controller := ⟨"magic".toList, .standard⟩
    let heard := ["anyface", "eagle", "1", "spike", "27", "niner"].map String.toList
    let hearing : Hearing := .understood (.spiked "eagle 1".toList 279)
    let more := ["5", "fighters", "anyface"].map String.toList
    Vocabulary.ofDocument (.mapping Vocabulary.standard.definition) = .ok .standard ∧
      ofCallsign "Magic".toList .standard = .ok controller ∧ heard ≠ [] ∧
        controller.hearTokens heard = .ok hearing ∧ controller.IsFinal heard hearing.outcome ∧
          controller.hearTokens (heard ++ more) = .ok hearing ∧
            ∀ text longer, tokens text = .ok heard → tokens longer = .ok (heard ++ more) →
              controller.parse text = .ok hearing.outcome ∧
                controller.parse longer = .ok hearing.outcome := by
  have named : ofCallsign "Magic".toList .standard = .ok ⟨"magic".toList, .standard⟩ := by
    decide +kernel
  have understood : Controller.hearTokens ⟨"magic".toList, .standard⟩
      (["anyface", "eagle", "1", "spike", "27", "niner"].map String.toList) =
        .ok (.understood (.spiked "eagle 1".toList 279)) := by
    decide +kernel
  have accepted := Vocabulary.ofDocument_definition_standard
  exact ⟨accepted, named, List.cons_ne_nil _ _, understood, trivial,
    final_outcome_stands accepted named (List.cons_ne_nil _ _) understood trivial _⟩

end Controller

end RadioCall
