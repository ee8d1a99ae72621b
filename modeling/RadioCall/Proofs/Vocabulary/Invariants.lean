/-
This file proves what an accepted definition ensures of its vocabulary. The checks are made
while the tables are filled and later entries replace earlier ones, so every property is said
of the finished tables, beside what the definition lists. The triggers are the listed phrases
in another order. The sort is stable, so among phrases of one length the order of the requests
and, for one request, the order of the definition are kept.
-/

import RadioCall.Proofs.Text.Words
import RadioCall.Proofs.Vocabulary.Listed

namespace RadioCall

/-! ### The order of triggers -/

/-- The place of a request among all requests. -/
def RequestWord.position (request : RequestWord) : Nat :=
  RequestWord.all.idxOf request

/-- Whether a trigger may be tried before another one: its phrase is longer, or it is as long
and of the same or an earlier request. -/
def Trigger.MayPrecede (first second : Trigger) : Prop :=
  second.phrase.length < first.phrase.length ∨
    first.phrase.length = second.phrase.length ∧ first.request.position ≤ second.request.position

instance (first second : Trigger) : Decidable (first.MayPrecede second) :=
  inferInstanceAs (Decidable (_ ∨ _))

namespace Vocabulary

section

variable {listing : List (Scalar × Document)} {requests : List RequestWord} {listed : List Trigger}

/-- Triggers that are listed request by request are in the order of the requests. -/
theorem triggersOf_byRequest (isListed : triggersOf listing requests = .ok listed)
    (ordered : requests.Pairwise fun first second => first.position ≤ second.position) :
    listed.Pairwise fun first second => first.request.position ≤ second.request.position := by
  induction requests generalizing listed with
  | nil =>
    obtain rfl := Except.ok.inj isListed
    exact List.Pairwise.nil
  | cons request rest ih =>
    obtain ⟨phrases, others, _, areOthers, rfl⟩ := triggersOf_cons_eq_ok_iff.mp isListed
    obtain ⟨isFirst, restOrdered⟩ := List.pairwise_cons.mp ordered
    refine List.pairwise_append.mpr ⟨?_, ih areOthers restOrdered, ?_⟩
    · exact List.pairwise_map.mpr (List.pairwise_of_forall fun _ _ => Nat.le_refl _)
    · intro trigger member other isOther
      obtain ⟨_, _, rfl⟩ := List.mem_map.mp member
      exact isFirst other.request ((mem_triggersOf_iff areOthers).mp isOther).1

/-- Among the listed triggers those of one request are its phrases, in their order. -/
theorem filter_request_triggersOf (isListed : triggersOf listing requests = .ok listed)
    (nodup : requests.Nodup) {request : RequestWord} (member : request ∈ requests) :
    ∃ phrases, listedPhrases listing request = .ok phrases ∧
      listed.filter (fun trigger => trigger.request = request) =
        phrases.map fun phrase => ⟨phrase, request⟩ := by
  induction requests generalizing listed with
  | nil => cases member
  | cons first rest ih =>
    obtain ⟨phrases, others, arePhrases, areOthers, rfl⟩ := triggersOf_cons_eq_ok_iff.mp isListed
    obtain ⟨notLater, restNodup⟩ := List.nodup_cons.mp nodup
    rw [List.filter_append]
    rcases List.mem_cons.mp member with rfl | later
    · refine ⟨phrases, arePhrases, ?_⟩
      have noOther : others.filter (fun trigger => trigger.request = request) = [] := by
        refine List.filter_eq_nil_iff.mpr fun trigger isOther isRequest => notLater ?_
        exact of_decide_eq_true isRequest ▸ ((mem_triggersOf_iff areOthers).mp isOther).1
      rw [noOther, List.append_nil, List.filter_eq_self]
      simp
    · obtain ⟨ofRequest, areOfRequest, isFilter⟩ := ih areOthers restNodup later
      refine ⟨ofRequest, areOfRequest, ?_⟩
      have noFirst : (phrases.map fun phrase => (⟨phrase, first⟩ : Trigger)).filter
          (fun trigger => trigger.request = request) = [] := by
        refine List.filter_eq_nil_iff.mpr fun trigger isFirst isRequest => notLater ?_
        obtain ⟨_, _, rfl⟩ := List.mem_map.mp isFirst
        exact (of_decide_eq_true isRequest : first = request) ▸ later
      rw [noFirst, List.nil_append, isFilter]

end

/-- Sorting keeps the order of phrases of one length. -/
theorem filter_length_longestFirst (triggers : List Trigger) (length : Nat) :
    (longestFirst triggers).filter (fun trigger => trigger.phrase.length = length) =
      triggers.filter fun trigger => trigger.phrase.length = length := by
  have equallyLong : (triggers.filter fun trigger => trigger.phrase.length = length).Pairwise
      fun first second => decide (second.phrase.length ≤ first.phrase.length) := by
    refine List.pairwise_of_forall_mem_list fun first isFirst second isSecond => ?_
    have firstLength := of_decide_eq_true (List.mem_filter.mp isFirst).2
    have secondLength := of_decide_eq_true (List.mem_filter.mp isSecond).2
    exact decide_eq_true (Nat.le_of_eq (secondLength.trans firstLength.symm))
  have kept := (List.sublist_mergeSort isLonger_trans isLonger_total equallyLong
    List.filter_sublist).filter fun trigger => trigger.phrase.length = length
  rw [List.filter_filter] at kept
  simp only [Bool.and_self] at kept
  exact (kept.eq_of_length ((longestFirst_perm triggers).filter _).length_eq.symm).symm

/-- If the triggers are in the order of their requests, sorting puts longer phrases first and
keeps the order of the requests otherwise. -/
theorem longestFirst_mayPrecede {triggers : List Trigger}
    (byRequest : triggers.Pairwise fun first second =>
      first.request.position ≤ second.request.position) :
    (longestFirst triggers).Pairwise Trigger.MayPrecede := by
  refine List.pairwise_iff_forall_sublist.mpr fun {first second} stand => ?_
  have notShorter : second.phrase.length ≤ first.phrase.length :=
    List.pairwise_iff_forall_sublist.mp (longestFirst_areLongestFirst triggers) stand
  rcases Nat.lt_or_eq_of_le notShorter with longer | same
  · exact .inl longer
  · refine .inr ⟨same.symm, ?_⟩
    have standFiltered := stand.filter fun trigger => trigger.phrase.length = first.phrase.length
    rw [filter_length_longestFirst] at standFiltered
    have standListed : [first, second].Sublist triggers := by
      simpa [same] using standFiltered.trans List.filter_sublist
    exact List.pairwise_iff_forall_sublist.mp byRequest standListed

/-! ### Vocabularies and their definitions -/

/-- What the triggers of a vocabulary have to do with its definition. -/
structure TriggersReflect (definition : Document) (triggers : List Trigger) : Prop where
  ordered : triggers.Pairwise Trigger.MayPrecede
  listed : ∃ listed, listedTriggers definition = .ok listed ∧ triggers.Perm listed
  inListedOrder : ∀ request, ∃ phrases,
    listedPhrases (definition.part "triggers".toList) request = .ok phrases ∧
      ∀ length, triggers.filter
          (fun trigger => trigger.request = request && trigger.phrase.length = length) =
        (phrases.filter fun phrase => phrase.length = length).map fun phrase => ⟨phrase, request⟩
  ownedPhrases : HaveOwnedPhrases triggers
  everyRequest : ∀ request, ∃ trigger ∈ triggers, trigger.request = request

/-- What the words for digits of a vocabulary have to do with its definition. -/
structure DigitsReflect (definition : Document) (table : List (Text × Digit)) : Prop where
  keysInRange : ∀ entry ∈ definition.part "digits".toList,
    ∃ value, wholeKey? entry.1 = .ok (some value) ∧ 0 ≤ value ∧ value ≤ 9
  listed : ∀ entry ∈ table, ∃ key, wholeKey? key = .ok (some (entry.2.val : Int)) ∧
    IsListedUnder (definition.part "digits".toList) key entry.1
  wordsOnce : (table.map Prod.fst).Nodup
  everyDigit : ∀ digit, ∃ word, table.lookup word = some digit

/-- What the words for contact categories of a vocabulary have to do with its definition. -/
structure CategoriesReflect (definition : Document) (table : List (Text × ContactCategory)) :
    Prop where
  keysNamed : ∀ entry ∈ definition.part "contact_categories".toList,
    ∃ category : ContactCategory, entry.1 = .text category.name
  listed : ∀ entry ∈ table,
    IsListedUnder (definition.part "contact_categories".toList) (.text entry.2.name) entry.1
  wordsOnce : (table.map Prod.fst).Nodup

/-- What a vocabulary has to do with its definition. -/
structure Reflects (definition : Document) (vocabulary : Vocabulary) : Prop where
  aliasGiven : entryOf (aliasOf definition) = .ok vocabulary.universalAlias
  aliasOneWord : words vocabulary.universalAlias = [vocabulary.universalAlias]
  triggers : TriggersReflect definition vocabulary.triggers
  digits : DigitsReflect definition vocabulary.digits
  categories : CategoriesReflect definition vocabulary.categories

theorem TriggersFit.reflect {definition : Document} {triggers : List Trigger}
    (fit : TriggersFit definition triggers) : TriggersReflect definition triggers := by
  obtain ⟨_, _, requested, listed, isListed, ownedPhrases, rfl⟩ := fit
  have ofRequest (request : RequestWord) := filter_request_triggersOf isListed (by decide)
    (mem_all_requests request)
  refine ⟨?_, ⟨listed, isListed, longestFirst_perm listed⟩, fun request => ?_,
    ownedPhrases.of_perm (longestFirst_perm listed), fun request => ?_⟩
  · exact longestFirst_mayPrecede (triggersOf_byRequest isListed (by decide))
  · obtain ⟨phrases, arePhrases, filtered⟩ := ofRequest request
    refine ⟨phrases, arePhrases, fun length => ?_⟩
    rw [← List.filter_filter, filter_length_longestFirst, List.filter_comm, filtered,
      List.filter_map]
    rfl
  · obtain ⟨phrases, arePhrases, _⟩ := ofRequest request
    obtain ⟨phrase, isPhrase⟩ := List.exists_mem_of_ne_nil phrases fun none =>
      requested request (none ▸ arePhrases)
    have isTrigger : ⟨phrase, request⟩ ∈ listed :=
      (mem_triggersOf_iff isListed).mpr ⟨mem_all_requests request, phrases, arePhrases, isPhrase⟩
    exact ⟨_, (longestFirst_perm listed).mem_iff.mpr isTrigger, rfl⟩

theorem DigitsFit.reflect {definition : Document} {table : List (Text × Digit)}
    (fit : DigitsFit definition table) : DigitsReflect definition table := by
  obtain ⟨_, ⟨listed, isListed, rfl⟩, everyDigit⟩ := fit
  have wordsOnce := Table.nodup_keys_ofEntries listed
  refine ⟨fun entry member => ?_, fun entry member => ?_, wordsOnce, everyDigit⟩
  · obtain ⟨digit, isDigit⟩ := exists_of_wordsOf_eq_ok isListed entry member
    exact ⟨digit.val, digitKey_eq_ok_iff.mp isDigit, by omega, by omega⟩
  · have found := (Table.lookup_eq_some_iff_mem wordsOnce).mpr member
    have isEntry := (Table.lookup_ofEntries_eq_some_iff.mp found).mem
    obtain ⟨key, isKey, isUnder⟩ := (mem_wordsOf_iff isListed).mp isEntry
    exact ⟨key, digitKey_eq_ok_iff.mp isKey, isUnder⟩

theorem CategoriesFit.reflect {definition : Document} {table : List (Text × ContactCategory)}
    (fit : CategoriesFit definition table) : CategoriesReflect definition table := by
  obtain ⟨_, listed, isListed, rfl⟩ := fit
  have wordsOnce := Table.nodup_keys_ofEntries listed
  refine ⟨fun entry member => ?_, fun entry member => ?_, wordsOnce⟩
  · obtain ⟨category, isCategory⟩ := exists_of_wordsOf_eq_ok isListed entry member
    exact ⟨category, categoryKey_eq_ok_iff.mp isCategory⟩
  · have found := (Table.lookup_eq_some_iff_mem wordsOnce).mpr member
    have isEntry := (Table.lookup_ofEntries_eq_some_iff.mp found).mem
    obtain ⟨key, isKey, isUnder⟩ := (mem_wordsOf_iff isListed).mp isEntry
    exact categoryKey_eq_ok_iff.mp isKey ▸ isUnder

/-- The vocabulary of every accepted definition: its alias is one word; its triggers are the
listed phrases, longer ones first, then by request and then as listed, none of them empty or of
two requests, and some for each request; its words stand once each, under a digit or category
that they are listed under; and every digit has a word. -/
theorem ofDocument_reflects {definition : Document} {vocabulary : Vocabulary}
    (accepted : ofDocument definition = .ok vocabulary) : Reflects definition vocabulary := by
  obtain ⟨_, isAlias, triggers, digits, categories⟩ := ofDocument_eq_ok_iff.mp accepted
  refine ⟨?_, ?_, triggers.reflect, digits.reflect, categories.reflect⟩
  · exact map_eq_ok_iff.mpr ⟨_, isAlias, sentence_singleton _⟩
  · obtain ⟨spoken, _, isWords⟩ := map_eq_ok_iff.mp isAlias
    exact words_of_isWord (isWord_of_mem_words (isWords ▸ List.mem_singleton_self _))

theorem ofDocument_reflects_oneListedTwice : Reflects oneListedTwice oneAsNine :=
  ofDocument_reflects ofDocument_oneListedTwice

end Vocabulary

end RadioCall
