/-
This file says which phrases of a vocabulary can be spoken: said on their own, they are found as
the request they stand for, with nothing before and nothing left behind. A phrase is kept in
small letters, but it is heard without punctuation and with its numbers in digits, and the
scanner stops at the first position where any phrase ends. So a phrase can be spoken exactly if
what is heard of it is listed for its request and no phrase ends before the last word. A phrase
without punctuation and numbers is heard as it stands, and then only a phrase within it is in
its way.
-/

import RadioCall.Proofs.Transmission
import RadioCall.Proofs.Trigger
import RadioCall.Proofs.Vocabulary.Rebuilt

namespace RadioCall

/-! ### Phrases heard as they stand -/

/-- A phrase without punctuation in which no number is spelled out. -/
structure IsPlainPhrase (phrase : List Text) : Prop where
  plain : ∀ word ∈ phrase, ∀ character ∈ word, isPunctuation character = false
  noNumber : HoldsNoNumber (sentence phrase)

/-- A plain phrase in small letters is heard as it stands. -/
theorem IsPlainPhrase.tokens_sentence {phrase : List Text} (plain : IsPlainPhrase phrase)
    (lowercase : IsLowercasePhrase phrase) : tokens (sentence phrase) = .ok phrase := by
  have settled : ∀ character ∈ sentence phrase, IsSettled character := by
    intro character member
    refine ⟨lowercase.isSmall_of_mem_sentence member, ?_⟩
    rcases mem_sentence member with rfl | ⟨word, isMember, inWord⟩
    · decide
    · exact plain.plain word isMember character inWord
  have unchanged : sanitize (sentence phrase) = .ok (sentence phrase) :=
    (sanitize_of_isSettled settled).trans (expandNumbers_eq_ok_iff.mpr plain.noNumber.writes)
  exact map_eq_ok_iff.mpr ⟨_, unchanged, words_sentence lowercase.areWords⟩

namespace Vocabulary

/-! ### Phrases at the end -/

/-- Whether no phrase of a vocabulary stands anywhere in a list of tokens. -/
def HoldsNoPhrase (vocabulary : Vocabulary) (tokens : List Text) : Prop :=
  ∀ trigger ∈ vocabulary.triggers, ¬trigger.phrase <:+: tokens

/-- A phrase ends before the last token exactly if it stands in the tokens before that one. -/
theorem infix_dropLast_iff {trigger : Trigger} {heard : List Text} (nonempty : heard ≠ []) :
    trigger.phrase <:+: heard.dropLast ↔ ∃ ending < heard.length, EndsAt trigger heard ending := by
  have positive := List.length_pos_iff.mpr nonempty
  have sameFront {ending : Nat} (before : ending ≤ heard.length - 1) :
      heard.dropLast.take ending = heard.take ending := by
    rw [List.dropLast_eq_take, List.take_take, Nat.min_eq_left before]
  rw [infix_iff_exists_endsAt]
  refine exists_congr fun ending => ?_
  rw [EndsAt, EndsAt, List.length_dropLast]
  constructor
  · rintro ⟨before, suffix⟩
    rw [sameFront before] at suffix
    exact ⟨by omega, by omega, suffix⟩
  · rintro ⟨before, _, suffix⟩
    have earlier : ending ≤ heard.length - 1 := by omega
    rw [← sameFront earlier] at suffix
    exact ⟨earlier, suffix⟩

section

variable {vocabulary : Vocabulary} (ownedPhrases : HaveOwnedPhrases vocabulary.triggers)
  (longestFirst : AreLongestFirst vocabulary.triggers)

include ownedPhrases longestFirst

/-- Scanning finds a request with nothing before and nothing behind exactly if the tokens are a
phrase of the request and no phrase ends before the last of them. -/
theorem scan_eq_whole_iff {heard : List Text} {request : RequestWord} :
    vocabulary.scan heard = some ⟨request, [], []⟩ ↔
      ⟨heard, request⟩ ∈ vocabulary.triggers ∧ vocabulary.HoldsNoPhrase heard.dropLast := by
  constructor
  · intro scanned
    rcases scan_cases ownedPhrases longestFirst heard with
      ⟨nothing, _⟩ | ⟨ending, trigger, selects, found⟩
    · rw [nothing] at scanned
      cases scanned
    · rw [found, Trigger.matchAt, Option.some_inj, TriggerMatch.mk.injEq] at scanned
      obtain ⟨rfl, noneBefore, noneBehind⟩ := scanned
      -- Nothing is left behind the phrase and nothing stands before it, so it is all there is.
      have isEnd : ending = heard.length :=
        Nat.le_antisymm selects.ends.1 (List.drop_eq_nil_iff.mp noneBehind)
      subst isEnd
      have suffix := selects.ends.2
      rw [List.take_length] at suffix
      have isWhole : trigger.phrase = heard := by
        refine suffix.eq_of_length (Nat.le_antisymm suffix.length_le ?_)
        rcases List.take_eq_nil_iff.mp noneBefore with noRoom | none
        · omega
        · rw [none, List.length_nil]
          exact Nat.zero_le _
      have nonempty : heard ≠ [] := isWhole ▸ ownedPhrases.nonempty trigger selects.listed
      refine ⟨isWhole ▸ selects.listed, fun other member isInfix => ?_⟩
      obtain ⟨earlier, before, ends⟩ := (infix_dropLast_iff nonempty).mp isInfix
      exact selects.earliest earlier before other member ends
  · rintro ⟨listed, noneEarlier⟩
    have nonempty : heard ≠ [] := ownedPhrases.nonempty _ listed
    have selects : Selects vocabulary.triggers heard heard.length ⟨heard, request⟩ := by
      refine ⟨listed, ⟨Nat.le_refl _, ?_⟩, fun earlier before other member ends => ?_,
        fun other _ ends => ?_⟩
      · exact ⟨[], (List.take_length).symm⟩
      · exact noneEarlier other member ((infix_dropLast_iff nonempty).mpr ⟨earlier, before, ends⟩)
      · have shorter := ends.2.length_le
        rwa [List.take_length] at shorter
    rw [scan_eq_some_of_selects ownedPhrases longestFirst selects, Trigger.matchAt, Nat.sub_self,
      List.take_zero, List.drop_length]

end

/-! ### Speaking a phrase -/

/-- Whether the phrase of a trigger can be spoken: said on its own, it is found as its request,
with no token before it and none left behind. -/
def CanBeSpoken (vocabulary : Vocabulary) (trigger : Trigger) : Prop :=
  vocabulary.scan <$> tokens (sentence trigger.phrase) = .ok (some ⟨trigger.request, [], []⟩)

instance (vocabulary : Vocabulary) (trigger : Trigger) :
    Decidable (vocabulary.CanBeSpoken trigger) :=
  inferInstanceAs (Decidable (_ = _))

/-- The standard words are accepted with any phrases that are in order. -/
theorem ofDocument_standardWith {triggers : List Trigger}
    (lowercase : ∀ trigger ∈ triggers, IsLowercasePhrase trigger.phrase)
    (ordered : triggers.Pairwise Trigger.MayPrecede) (ownedPhrases : HaveOwnedPhrases triggers)
    (everyRequest : ∀ request ∈ RequestWord.all, ∃ trigger ∈ triggers, trigger.request = request) :
    ofDocument (definitionIn ⟨RequestWord.all, List.finRange 10, ContactCategory.all⟩
      { standard with triggers }) = .ok { standard with triggers } := by
  have standardInOrder := ofDocument_isInOrder ofDocument_definition_standard
  have inOrder : IsInOrder { standard with triggers } :=
    { standardInOrder with
      lowercase := { standardInOrder.lowercase with triggers := lowercase }
      ordered, ownedPhrases
      everyRequest := fun request => everyRequest request (mem_all_requests request) }
  have categories : ∀ entry ∈ standard.categories, entry.2 ∈ ContactCategory.all := by decide
  have covers : ListingOrder.Covers ⟨RequestWord.all, List.finRange 10, ContactCategory.all⟩
      { standard with triggers } :=
    ⟨mem_all_requests, List.mem_finRange, by decide, categories, by decide⟩
  rw [inOrder.ofDocument_definitionIn covers]
  rfl

/-- The standard vocabulary with phrases that are not heard as they stand, because of a hyphen
or a number in them, and with a phrase that begins with another one. -/
def hardToSay : Vocabulary :=
  { standard with
    triggers :=
      [⟨["alpha".toList, "check".toList], .alphaCheck⟩,
       ⟨["bogey".toList, "dope".toList], .bogeyDope⟩,
       ⟨["bogie".toList, "dope".toList], .bogeyDope⟩,
       ⟨["picture".toList, "clean".toList], .picture⟩,
       ⟨["radio".toList, "check".toList], .radioCheck⟩,
       ⟨["check".toList, "two".toList], .radioCheck⟩,
       ⟨["snap".toList, "lock".toList], .snaplock⟩,
       ⟨["declare".toList], .declare⟩,
       ⟨["picture".toList], .picture⟩,
       ⟨["radio-check".toList], .radioCheck⟩,
       ⟨["check-in".toList], .radioCheck⟩,
       ⟨["spiked".toList], .spiked⟩,
       ⟨["snaplock".toList], .snaplock⟩] }

/-- The definition of this vocabulary. -/
def hardToSayDefinition : Document :=
  hardToSay.definitionIn ⟨RequestWord.all, List.finRange 10, ContactCategory.all⟩

theorem ofDocument_hardToSayDefinition : ofDocument hardToSayDefinition = .ok hardToSay :=
  ofDocument_standardWith (by decide +kernel) (by decide +kernel)
    ⟨by decide +kernel, by decide +kernel⟩ (by decide +kernel)

/-- A phrase of an accepted vocabulary can be spoken exactly if what is heard of it is a phrase
of its request in which no phrase ends before the last word. A phrase without punctuation and
numbers can be spoken exactly if it holds no phrase before its last word. -/
theorem canBeSpoken_iff {definition : Document} {vocabulary : Vocabulary}
    (accepted : ofDocument definition = .ok vocabulary) {trigger : Trigger}
    (listed : trigger ∈ vocabulary.triggers) :
    (vocabulary.CanBeSpoken trigger ↔
      ∃ heard, tokens (sentence trigger.phrase) = .ok heard ∧
        ⟨heard, trigger.request⟩ ∈ vocabulary.triggers ∧
          vocabulary.HoldsNoPhrase heard.dropLast) ∧
      (IsPlainPhrase trigger.phrase →
        (vocabulary.CanBeSpoken trigger ↔ vocabulary.HoldsNoPhrase trigger.phrase.dropLast)) := by
  obtain ⟨ownedPhrases, longestFirst⟩ := ofDocument_triggers accepted
  refine ⟨?_, fun plain => ?_⟩
  · rw [CanBeSpoken, map_eq_ok_iff]
    simp only [scan_eq_whole_iff ownedPhrases longestFirst]
  · have lowercase := (ofDocument_isLowercase accepted).triggers trigger listed
    have scanned : vocabulary.CanBeSpoken trigger ↔
        vocabulary.scan trigger.phrase = some ⟨trigger.request, [], []⟩ := by
      rw [CanBeSpoken, plain.tokens_sentence lowercase]
      exact Iff.of_eq (Except.ok.injEq _ _)
    rw [scanned, scan_eq_whole_iff ownedPhrases longestFirst]
    exact and_iff_right listed

/-- The phrase with a hyphen is heard as another phrase of its request. -/
theorem canBeSpoken_iff_respelled :
    let trigger : Trigger := ⟨["radio-check".toList], .radioCheck⟩
    ofDocument hardToSayDefinition = .ok hardToSay ∧ trigger ∈ hardToSay.triggers ∧
      (hardToSay.CanBeSpoken trigger ↔
        ∃ heard, tokens (sentence trigger.phrase) = .ok heard ∧
          ⟨heard, trigger.request⟩ ∈ hardToSay.triggers ∧
            hardToSay.HoldsNoPhrase heard.dropLast) ∧
        (IsPlainPhrase trigger.phrase →
          (hardToSay.CanBeSpoken trigger ↔ hardToSay.HoldsNoPhrase trigger.phrase.dropLast)) := by
  have listed : ⟨["radio-check".toList], .radioCheck⟩ ∈ hardToSay.triggers := by decide
  exact ⟨ofDocument_hardToSayDefinition, listed,
    canBeSpoken_iff ofDocument_hardToSayDefinition listed⟩

/-- Not every phrase of an accepted vocabulary can be spoken: a hyphen, a number or a phrase in
front may be in its way. -/
theorem not_canBeSpoken_hardToSay :
    ofDocument hardToSayDefinition = .ok hardToSay ∧
      ∀ trigger ∈ ([⟨["check-in".toList], .radioCheck⟩,
          ⟨["check".toList, "two".toList], .radioCheck⟩,
          ⟨["picture".toList, "clean".toList], .picture⟩] : List Trigger),
        trigger ∈ hardToSay.triggers ∧ ¬hardToSay.CanBeSpoken trigger :=
  ⟨ofDocument_hardToSayDefinition, by decide +kernel⟩

end Vocabulary

end RadioCall
