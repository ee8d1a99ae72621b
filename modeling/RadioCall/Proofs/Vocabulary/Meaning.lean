/-
This file shows what the words of an accepted vocabulary mean. A word for a digit or for a
contact category means what it is listed under last, so a section in which a word is listed
under two values is accepted and the earlier listing is lost. All listings count exactly if no
word has two of them that differ. A phrase is different: a definition that lists one for two
requests is rejected.
-/

import RadioCall.Proofs.Vocabulary.Listed

namespace RadioCall

namespace Vocabulary

/-! ### Words of a section -/

section

variable {α : Type} (valueOf : Scalar → Except Fault α) (listing : List (Scalar × Document))

/-- Whether every word means what it is listed under. -/
def KeepsListings (meaning : Text → Option α) : Prop :=
  ∀ key value word, valueOf key = .ok value → IsListedUnder listing key word →
    meaning word = some value

/-- Whether no word is listed under two values. -/
def ListsOnce : Prop :=
  ∀ first second value other word, valueOf first = .ok value → valueOf second = .ok other →
    IsListedUnder listing first word → IsListedUnder listing second word → value = other

/-- Whether words mean what they are listed under last. -/
structure MeansLastListed (meaning : Text → Option α) : Prop where
  last : ∃ listed, wordsOf valueOf listing = .ok listed ∧
    ∀ word value, meaning word = some value ↔ IsLastEntry listed word value
  keepsListings_iff : KeepsListings valueOf listing meaning ↔ ListsOnce valueOf listing

variable {valueOf listing} {listed : List (Text × α)}
  (isListed : wordsOf valueOf listing = .ok listed)

include isListed

theorem keepsListings_iff_forall_mem {meaning : Text → Option α} :
    KeepsListings valueOf listing meaning ↔ ∀ entry ∈ listed, meaning entry.1 = some entry.2 := by
  constructor
  · rintro keeps ⟨word, value⟩ member
    obtain ⟨key, isValue, isUnder⟩ := (mem_wordsOf_iff isListed).mp member
    exact keeps key value word isValue isUnder
  · intro found key value word isValue isUnder
    exact found (word, value) ((mem_wordsOf_iff isListed).mpr ⟨key, isValue, isUnder⟩)

theorem listsOnce_iff_areConsistent : ListsOnce valueOf listing ↔ AreConsistent listed := by
  constructor
  · rintro once ⟨word, value⟩ member ⟨_, other⟩ otherMember rfl
    obtain ⟨first, isValue, isUnder⟩ := (mem_wordsOf_iff isListed).mp member
    obtain ⟨second, isOther, isUnderOther⟩ := (mem_wordsOf_iff isListed).mp otherMember
    exact once first second value other word isValue isOther isUnder isUnderOther
  · intro consistent first second value other word isValue isOther isUnder isUnderOther
    exact consistent (word, value) ((mem_wordsOf_iff isListed).mpr ⟨first, isValue, isUnder⟩)
      (word, other) ((mem_wordsOf_iff isListed).mpr ⟨second, isOther, isUnderOther⟩) rfl

/-- In the table that is made of a section the words mean what they are listed under last. -/
theorem meansLastListed_ofEntries :
    MeansLastListed valueOf listing fun word => (Table.ofEntries (· == ·) listed).lookup word where
  last := ⟨listed, isListed, fun _ _ => Table.lookup_ofEntries_eq_some_iff⟩
  keepsListings_iff := by
    rw [keepsListings_iff_forall_mem isListed, Table.forall_lookup_ofEntries_iff,
      listsOnce_iff_areConsistent isListed]

end

/-! ### Phrases -/

/-- Whether a phrase is listed for a request. -/
def IsPhraseFor (definition : Document) (phrase : List Text) (request : RequestWord) : Prop :=
  ∃ phrases, listedPhrases (definition.part "triggers".toList) request = .ok phrases ∧
    phrase ∈ phrases

theorem TriggersFit.request_unique {definition : Document} {triggers : List Trigger}
    (fit : TriggersFit definition triggers) {first second : RequestWord} {phrase : List Text}
    (isFirst : IsPhraseFor definition phrase first)
    (isSecond : IsPhraseFor definition phrase second) : first = second := by
  obtain ⟨listed, isListed, ownedPhrases, _⟩ := fit.listed
  obtain ⟨_, areFirst, isFirst⟩ := isFirst
  obtain ⟨_, areSecond, isSecond⟩ := isSecond
  have firstListed : ⟨phrase, first⟩ ∈ listed :=
    (mem_triggersOf_iff isListed).mpr ⟨mem_all_requests first, _, areFirst, isFirst⟩
  have secondListed : ⟨phrase, second⟩ ∈ listed :=
    (mem_triggersOf_iff isListed).mpr ⟨mem_all_requests second, _, areSecond, isSecond⟩
  exact ownedPhrases.owned _ firstListed _ secondListed rfl

/-! ### Accepted definitions -/

/-- What the words and phrases of a vocabulary mean by its definition. -/
structure Means (definition : Document) (vocabulary : Vocabulary) : Prop where
  digits : MeansLastListed digitKey (definition.part "digits".toList) vocabulary.digit?
  categories : MeansLastListed categoryKey (definition.part "contact_categories".toList)
    vocabulary.category?
  phrases : ∀ first second phrase, IsPhraseFor definition phrase first →
    IsPhraseFor definition phrase second → first = second

/-- In the vocabulary of an accepted definition a word means what it is listed under last, and
no phrase is listed for two requests. -/
theorem ofDocument_means {definition : Document} {vocabulary : Vocabulary}
    (accepted : ofDocument definition = .ok vocabulary) : Means definition vocabulary := by
  obtain ⟨_, _, triggers, digits, categories⟩ := ofDocument_eq_ok_iff.mp accepted
  obtain ⟨words, areWords, isTable⟩ := digits.listed
  obtain ⟨names, areNames, isNameTable⟩ := categories.listed
  refine ⟨?_, ?_, fun _ _ _ => triggers.request_unique⟩
  · have means := meansLastListed_ofEntries areWords
    rw [← isTable] at means
    exact means
  · have means := meansLastListed_ofEntries areNames
    rw [← isNameTable] at means
    exact means

theorem ofDocument_means_oneListedTwice :
    Means oneListedTwice oneAsNine ∧ oneAsNine.digit? "one".toList = some 9 ∧
      ¬ListsOnce digitKey (oneListedTwice.part "digits".toList) := by
  have means := ofDocument_means ofDocument_oneListedTwice
  refine ⟨means, by decide, fun once => ?_⟩
  have isUnder : IsListedUnder (oneListedTwice.part "digits".toList) (.integer 1) "one".toList :=
    ⟨_, ["1".toList, "one".toList, "wun".toList], .tail _ (.head _), rfl, .tail _ (.head _)⟩
  -- If the listings agreed, the word would also mean the first digit.
  have isOne := means.digits.keepsListings_iff.mpr once (.integer 1) 1 "one".toList rfl isUnder
  exact absurd isOne (by decide)

end Vocabulary

end RadioCall
