/-
This file says what becomes of a transmission. Its tokens are looked at in a fixed order:
who is addressed, which trigger counts, whether a callsign stands before it, and whether
the fields after it fit the request. The first thing that is missing decides, so each
failure means that all before it was there.
-/

import RadioCall.Proofs.Callsign
import RadioCall.Proofs.Request
import RadioCall.Proofs.Trigger
import RadioCall.Proofs.Vocabulary.Listed

namespace RadioCall

/-! ### Hearing step by step -/

namespace Controller

/-- Whether the first token heard is the callsign of the controller or the universal alias. -/
def IsAddressed (controller : Controller) (heard : List Text) : Prop :=
  heard.head? = some controller.callsign ∨ heard.head? = some controller.vocabulary.universalAlias

/-- The tokens between the wake word and a trigger that ends at a position after it. -/
def segmentBefore (heard : List Text) (ending : Nat) (trigger : Trigger) : List Text :=
  heard.tail.take (ending - trigger.phrase.length)

variable {controller : Controller} {heard : List Text}

theorem hearTokens_of_not_isAddressed (other : ¬controller.IsAddressed heard) :
    controller.hearTokens heard = .ok .notAddressed := by
  cases heard with
  | nil => rfl
  | cons first rest =>
    have notWake : ¬controller.isWakeWord first := by
      simpa [IsAddressed, isWakeWord] using other
    rw [hearTokens, if_neg notWake]

theorem hearTokens_of_isAddressed (addressed : controller.IsAddressed heard) :
    controller.hearTokens heard = controller.hearAddressed heard.tail := by
  cases heard with
  | nil => simp [IsAddressed] at addressed
  | cons first rest =>
    have wake : controller.isWakeWord first := by
      simpa [IsAddressed, isWakeWord] using addressed
    rw [hearTokens, if_pos wake, List.tail_cons]

variable (ownedPhrases : HaveOwnedPhrases controller.vocabulary.triggers)
  (longestFirst : AreLongestFirst controller.vocabulary.triggers)

include ownedPhrases longestFirst

theorem hearTokens_of_no_phrase (addressed : controller.IsAddressed heard)
    (never : ∀ trigger ∈ controller.vocabulary.triggers, ¬trigger.phrase <:+: heard.tail) :
    controller.hearTokens heard = .ok .noTrigger := by
  rw [hearTokens_of_isAddressed addressed, hearAddressed,
    (Vocabulary.scan_eq_none_iff ownedPhrases longestFirst).mpr never]

/-- Where a trigger counts, the callsign before it and the fields after it decide. -/
theorem hearTokens_of_selects (addressed : controller.IsAddressed heard) {ending : Nat}
    {trigger : Trigger}
    (selects : Selects controller.vocabulary.triggers heard.tail ending trigger) :
    controller.hearTokens heard =
      let callsign := controller.vocabulary.decodeCallsign (segmentBefore heard ending trigger)
      if callsign.isValid then
        (fun request => (request.map Hearing.understood).getD
            (.noRequest trigger.request callsign.text)) <$>
          controller.vocabulary.readRequest trigger.request callsign.text (heard.tail.drop ending)
      else .ok (.noCallsign (segmentBefore heard ending trigger)) := by
  rw [hearTokens_of_isAddressed addressed, hearAddressed,
    Vocabulary.scan_eq_some_of_selects ownedPhrases longestFirst selects]
  rfl

end Controller

/-! ### Outcomes -/

namespace Outcome

/-- An outcome has a request or a failure, and not both. -/
theorem isSome_request?_iff (outcome : Outcome) :
    outcome.request?.isSome ↔ outcome.failure? = none := by
  cases outcome <;> simp [request?, failure?]

/-- Of the failures, only a request that does not fit tells who made it. -/
theorem eq_invalidRequest_of_callsign_ne_nil {outcome : Outcome} {failure : Failure}
    (failed : outcome.failure? = some failure) (known : outcome.callsign ≠ []) :
    failure = .invalidRequest := by
  cases outcome with
  | accepted request => cases failed
  | invalidRequest callsign => exact (Option.some.inj failed).symm
  | notAddressed => exact absurd rfl known
  | noTrigger => exact absurd rfl known
  | invalidCallsign => exact absurd rfl known

end Outcome

namespace Controller

/-- What the outcome of a transmission tells about the tokens that were heard. The failures
come in the order in which they are looked for, and each is told from the later ones by
what the tokens lack. -/
structure Classifies (controller : Controller) (heard : List Text) (outcome : Outcome) : Prop where
  notAddressed : outcome.failure? = some .notAddressed ↔ ¬controller.IsAddressed heard
  noTrigger : controller.IsAddressed heard →
    (outcome.failure? = some .noTrigger ↔
      ∀ trigger ∈ controller.vocabulary.triggers, ¬trigger.phrase <:+: heard.tail)
  /-- A trigger counts as soon as any phrase occurs. -/
  selected : (∃ trigger ∈ controller.vocabulary.triggers, trigger.phrase <:+: heard.tail) →
    ∃ ending trigger, Selects controller.vocabulary.triggers heard.tail ending trigger
  invalidCallsign : controller.IsAddressed heard → ∀ ending trigger,
    Selects controller.vocabulary.triggers heard.tail ending trigger →
      (outcome.failure? = some .invalidCallsign ↔
        ¬controller.vocabulary.holdsDigit (segmentBefore heard ending trigger))
  invalidRequest : outcome.failure? = some .invalidRequest → ∀ ending trigger,
    Selects controller.vocabulary.triggers heard.tail ending trigger →
      trigger.request ∈ requestsWithFields
  requestOrFailure : outcome.request?.isSome ↔ outcome.failure? = none
  accepted : ∀ request, outcome.request? = some request →
    request.callsign = outcome.callsign ∧ outcome.callsign ≠ [] ∧ request.IsInRange ∧
      ∀ ending trigger, Selects controller.vocabulary.triggers heard.tail ending trigger →
        request.word = trigger.request
  /-- The callsign that an outcome tells is the one spoken before the trigger. -/
  spoken : outcome.failure? = none ∨ outcome.failure? = some .invalidRequest →
    ∀ ending trigger, Selects controller.vocabulary.triggers heard.tail ending trigger →
      outcome.callsign =
        (controller.vocabulary.decodeCallsign (segmentBefore heard ending trigger)).text
  callsignOfFailure : ∀ failure, outcome.failure? = some failure → outcome.callsign ≠ [] →
    failure = .invalidRequest

variable {controller : Controller} {heard : List Text}

section

variable (ownedPhrases : HaveOwnedPhrases controller.vocabulary.triggers)
  (longestFirst : AreLongestFirst controller.vocabulary.triggers)

include ownedPhrases longestFirst

theorem exists_selects_of_infix
    (occurs : ∃ trigger ∈ controller.vocabulary.triggers, trigger.phrase <:+: heard.tail) :
    ∃ ending trigger, Selects controller.vocabulary.triggers heard.tail ending trigger := by
  obtain ⟨trigger, member, isInfix⟩ := occurs
  rcases Vocabulary.scan_cases ownedPhrases longestFirst heard.tail with
    ⟨_, never⟩ | ⟨ending, first, selects, _⟩
  · exact absurd isInfix (never trigger member)
  · exact ⟨ending, first, selects⟩

omit longestFirst in
/-- Where a trigger counts, there is nothing to check about the other triggers: none but it
counts. -/
theorem classifies_of_outcome (addressed : controller.IsAddressed heard) {ending : Nat}
    {trigger : Trigger}
    (selects : Selects controller.vocabulary.triggers heard.tail ending trigger) {outcome : Outcome}
    (isLate : outcome.failure? ≠ some .notAddressed ∧ outcome.failure? ≠ some .noTrigger)
    (callsign : outcome.failure? = some .invalidCallsign ↔
      ¬controller.vocabulary.holdsDigit (segmentBefore heard ending trigger))
    (refused : outcome.failure? = some .invalidRequest → trigger.request ∈ requestsWithFields)
    (accepted : ∀ request, outcome.request? = some request →
      request.callsign = outcome.callsign ∧ outcome.callsign ≠ [] ∧ request.IsInRange ∧
        request.word = trigger.request)
    (spoken : outcome.failure? = none ∨ outcome.failure? = some .invalidRequest →
      outcome.callsign =
        (controller.vocabulary.decodeCallsign (segmentBefore heard ending trigger)).text) :
    controller.Classifies heard outcome := by
  have someTrigger :
      ¬∀ trigger ∈ controller.vocabulary.triggers, ¬trigger.phrase <:+: heard.tail := by
    intro never
    exact never trigger selects.listed (infix_iff_exists_endsAt.mpr ⟨ending, selects.ends⟩)
  have isUnique : ∀ otherEnding other,
      Selects controller.vocabulary.triggers heard.tail otherEnding other →
        otherEnding = ending ∧ other = trigger := fun otherEnding other otherSelects =>
    ⟨otherSelects.ending_unique selects, otherSelects.trigger_unique ownedPhrases selects⟩
  constructor
  · exact ⟨fun failed => absurd failed isLate.1, fun other => absurd addressed other⟩
  · exact fun _ => ⟨fun failed => absurd failed isLate.2, fun never => absurd never someTrigger⟩
  · exact fun _ => ⟨ending, trigger, selects⟩
  · intro _ otherEnding other otherSelects
    obtain ⟨rfl, rfl⟩ := isUnique _ _ otherSelects
    exact callsign
  · intro failed otherEnding other otherSelects
    rw [(isUnique _ _ otherSelects).2]
    exact refused failed
  · exact Outcome.isSome_request?_iff _
  · intro request isAccepted
    obtain ⟨sameCallsign, known, inRange, sameWord⟩ := accepted request isAccepted
    refine ⟨sameCallsign, known, inRange, fun otherEnding other otherSelects => ?_⟩
    rw [(isUnique _ _ otherSelects).2, sameWord]
  · intro isTold otherEnding other otherSelects
    obtain ⟨rfl, rfl⟩ := isUnique _ _ otherSelects
    exact spoken isTold
  · exact fun _ => Outcome.eq_invalidRequest_of_callsign_ne_nil

/-- Where a trigger counts, the callsign and then the fields decide the outcome. -/
theorem classifies_of_selects (nonempty : ∀ token ∈ heard, token ≠ [])
    (addressed : controller.IsAddressed heard) {ending : Nat} {trigger : Trigger}
    (selects : Selects controller.vocabulary.triggers heard.tail ending trigger) {hearing : Hearing}
    (understood : controller.hearTokens heard = .ok hearing) :
    controller.Classifies heard hearing.outcome := by
  have validIff : (controller.vocabulary.decodeCallsign
        (segmentBefore heard ending trigger)).isValid ↔
      controller.vocabulary.holdsDigit (segmentBefore heard ending trigger) :=
    Vocabulary.decodeCallsign_isValid_iff fun token member =>
      nonempty token (List.mem_of_mem_tail (List.mem_of_mem_take member))
  have classifies := @classifies_of_outcome controller heard ownedPhrases addressed ending trigger
    selects hearing.outcome
  rw [hearTokens_of_selects ownedPhrases longestFirst addressed selects] at understood
  simp only at understood
  split at understood
  · next valid =>
    have holds := validIff.mp valid
    obtain ⟨read, isRead, rfl⟩ := map_eq_ok_iff.mp understood
    cases read with
    | none =>
      refine classifies ⟨nofun, nofun⟩ ⟨nofun, fun noDigit => absurd holds noDigit⟩ ?_ nofun
        fun _ => rfl
      exact fun _ => Vocabulary.mem_requestsWithFields_of_refused isRead
    | some request =>
      obtain ⟨sameWord, sameCallsign, inRange⟩ := Vocabulary.readRequest_ensures isRead
      refine classifies ⟨nofun, nofun⟩ ⟨nofun, fun noDigit => absurd holds noDigit⟩ nofun ?_
        fun _ => sameCallsign
      intro accepted isAccepted
      obtain rfl := Option.some.inj isAccepted
      refine ⟨rfl, ?_, inRange, sameWord⟩
      show request.callsign ≠ []
      rw [sameCallsign]
      exact Vocabulary.decodeCallsign_text_ne_nil valid
  · next notValid =>
    obtain rfl := Except.ok.inj understood
    have noDigit := fun holds => notValid (validIff.mpr holds)
    exact classifies ⟨nofun, nofun⟩ ⟨fun _ => noDigit, fun _ => rfl⟩ nofun nofun
      fun isTold => isTold.elim nofun nofun

/-- What is understood of the tokens of a transmission classifies them. -/
theorem classifies_of_hearTokens (nonempty : ∀ token ∈ heard, token ≠ []) {hearing : Hearing}
    (understood : controller.hearTokens heard = .ok hearing) :
    controller.Classifies heard hearing.outcome := by
  by_cases addressed : controller.IsAddressed heard
  · rcases Vocabulary.scan_cases ownedPhrases longestFirst heard.tail with
      ⟨_, never⟩ | ⟨ending, trigger, selects, _⟩
    · rw [hearTokens_of_no_phrase ownedPhrases longestFirst addressed never] at understood
      obtain rfl := Except.ok.inj understood
      have noneSelected : ∀ ending trigger,
          ¬Selects controller.vocabulary.triggers heard.tail ending trigger := by
        intro ending trigger selects
        exact never trigger selects.listed (infix_iff_exists_endsAt.mpr ⟨ending, selects.ends⟩)
      constructor
      · simp [Hearing.outcome, Outcome.failure?, addressed]
      · exact fun _ => ⟨fun _ => never, fun _ => rfl⟩
      · exact exists_selects_of_infix ownedPhrases longestFirst
      · exact fun _ ending trigger selects => absurd selects (noneSelected ending trigger)
      · exact fun _ ending trigger selects => absurd selects (noneSelected ending trigger)
      · exact Outcome.isSome_request?_iff _
      · intro request accepted
        cases accepted
      · exact fun _ ending trigger selects => absurd selects (noneSelected ending trigger)
      · exact fun _ => Outcome.eq_invalidRequest_of_callsign_ne_nil
    · exact classifies_of_selects ownedPhrases longestFirst nonempty addressed selects understood
  · rw [hearTokens_of_not_isAddressed addressed] at understood
    obtain rfl := Except.ok.inj understood
    constructor
    · exact ⟨fun _ => addressed, fun _ => rfl⟩
    · exact fun isAddressed => absurd isAddressed addressed
    · exact exists_selects_of_infix ownedPhrases longestFirst
    · exact fun isAddressed => absurd isAddressed addressed
    · intro failed
      cases failed
    · exact Outcome.isSome_request?_iff _
    · intro request accepted
      cases accepted
    · exact fun isTold => isTold.elim nofun nofun
    · exact fun _ => Outcome.eq_invalidRequest_of_callsign_ne_nil

end

/-- Only a callsign that is heard as one word makes a controller. -/
theorem ofCallsign_eq_ok_iff {given : Text} {vocabulary : Vocabulary} :
    ofCallsign given vocabulary = .ok controller ↔
      tokens given = .ok [controller.callsign] ∧ controller.vocabulary = vocabulary := by
  constructor
  · intro built
    obtain ⟨heard, isHeard, built⟩ := bind_eq_ok_iff.mp built
    split at built
    · obtain rfl := Except.ok.inj built
      exact ⟨isHeard, rfl⟩
    · cases built
  · rintro ⟨isHeard, rfl⟩
    exact bind_eq_ok_iff.mpr ⟨[controller.callsign], isHeard, rfl⟩

/-- Every transmission that is read has the outcome that its tokens call for, whatever the
vocabulary that was accepted and whatever the callsign of the controller. -/
theorem parse_classifies {document : Document} {vocabulary : Vocabulary} {given text : Text}
    {outcome : Outcome} (accepted : Vocabulary.ofDocument document = .ok vocabulary)
    (named : ofCallsign given vocabulary = .ok controller)
    (parsed : controller.parse text = .ok outcome) :
    tokens given = .ok [controller.callsign] ∧ controller.vocabulary = vocabulary ∧
      ∃ heard, tokens text = .ok heard ∧ controller.Classifies heard outcome := by
  obtain ⟨isName, rfl⟩ := ofCallsign_eq_ok_iff.mp named
  obtain ⟨ownedPhrases, longestFirst⟩ := Vocabulary.ofDocument_triggers accepted
  obtain ⟨hearing, isHeard, rfl⟩ := map_eq_ok_iff.mp parsed
  obtain ⟨heard, isText, understood⟩ := bind_eq_ok_iff.mp isHeard
  refine ⟨isName, rfl, heard, isText, ?_⟩
  refine classifies_of_hearTokens ownedPhrases longestFirst (fun token member => ?_) understood
  obtain ⟨sanitized, _, rfl⟩ := map_eq_ok_iff.mp isText
  exact (isWord_of_mem_words member).nonempty

/-- A declaration with capitals, punctuation and spelled-out numbers is accepted, so it was
addressed, and a trigger and a callsign with digits were heard. -/
theorem parse_classifies_declare :
    let controller : Controller := ⟨"magic".toList, .standard⟩
    let text := "Magic, Eagle one-two: declare bullseye 27 zero, thirty six, angels 25!".toList
    let outcome : Outcome := .accepted (.declare "eagle 1 2".toList ⟨270, 36, 25000⟩ true)
    Vocabulary.ofDocument (.mapping Vocabulary.standard.definition) = .ok .standard ∧
      ofCallsign "MAGIC".toList .standard = .ok controller ∧
        controller.parse text = .ok outcome ∧
          tokens "MAGIC".toList = .ok [controller.callsign] ∧
            controller.vocabulary = .standard ∧
              ∃ heard, tokens text = .ok heard ∧ controller.Classifies heard outcome := by
  have named : ofCallsign "MAGIC".toList .standard = .ok ⟨"magic".toList, .standard⟩ := by
    decide +kernel
  have parsed : Controller.parse ⟨"magic".toList, .standard⟩
      "Magic, Eagle one-two: declare bullseye 27 zero, thirty six, angels 25!".toList =
        .ok (.accepted (.declare "eagle 1 2".toList ⟨270, 36, 25000⟩ true)) := by
    decide +kernel
  have accepted := Vocabulary.ofDocument_definition_standard
  exact ⟨accepted, named, parsed, parse_classifies accepted named parsed⟩

end Controller

end RadioCall
