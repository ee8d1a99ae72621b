/-
This file says which definitions are accepted and what vocabulary they give. The checks are
made while the lists of a definition are gone through, and each can be said of the lists as
a whole: names of requests only, a phrase for each request, no empty phrase, no phrase of two
requests, and a word for each digit. Nothing else is asked of the words of a table.
-/

import RadioCall.Proofs.Document.Readable
import RadioCall.Proofs.Document.Table
import RadioCall.Proofs.Vocabulary.Contents
import RadioCall.Proofs.Vocabulary.Triggers

namespace RadioCall

/-- Some of the triggers keep what holds of the phrases of all. -/
theorem HaveOwnedPhrases.of_subset {triggers others : List Trigger}
    (ownedPhrases : HaveOwnedPhrases triggers) (subset : others ⊆ triggers) :
    HaveOwnedPhrases others where
  nonempty := fun trigger member => ownedPhrases.nonempty trigger (subset member)
  owned := fun first firstMember second secondMember =>
    ownedPhrases.owned first (subset firstMember) second (subset secondMember)

namespace Vocabulary

/-! ### Triggers -/

theorem readMembers_eq_ok_nil_iff {α : Type} {read : Document → Except Fault α}
    {listed : Document} : readMembers read listed = .ok [] ↔ listed.isFalsy := by
  rw [← Document.members_eq_nil_iff]
  constructor
  · intro none
    obtain ⟨members, isListed, mapped⟩ := bind_eq_ok_iff.mp none
    cases members with
    | nil => exact isListed
    | cons first rest =>
      obtain ⟨_, _, _, _, impossible⟩ := mapM_cons_eq_ok_iff.mp mapped
      cases impossible
  · intro none
    exact bind_eq_ok_iff.mpr ⟨[], none, rfl⟩

section

variable {listing : List (Scalar × Document)} {request : RequestWord}
  {triggers result : List Trigger} (ownedPhrases : HaveOwnedPhrases triggers)

include ownedPhrases

/-- A phrase is added exactly if the phrases stay owned with it. -/
theorem addPhrase_eq_ok_iff {spelling : Document} :
    addPhrase request triggers spelling = .ok result ↔
      ∃ phrase, phraseOf spelling = .ok phrase ∧ result = triggers ++ [⟨phrase, request⟩] ∧
        HaveOwnedPhrases result := by
  constructor
  · intro added
    have kept := addPhrase_keeps ownedPhrases added
    obtain ⟨phrase, isPhrase, added⟩ := bind_eq_ok_iff.mp added
    refine ⟨phrase, isPhrase, ?_, kept⟩
    split at added
    · exact absurd added (reject_ne_ok _ _)
    · split at added
      · exact absurd added (reject_ne_ok _ _)
      · exact (Except.ok.inj added).symm
  · rintro ⟨phrase, isPhrase, rfl, kept⟩
    have isLast : (⟨phrase, request⟩ : Trigger) ∈ triggers ++ [⟨phrase, request⟩] :=
      List.mem_append_right _ List.mem_cons_self
    have notEmpty : ¬phrase.isEmpty := fun empty =>
      kept.nonempty _ isLast (List.isEmpty_iff.mp empty)
    have noOther : triggers.find? (fun trigger =>
        trigger.phrase = phrase && trigger.request ≠ request) = none := by
      refine List.find?_eq_none.mpr fun trigger member => ?_
      have owner : trigger.phrase = phrase → trigger.request = request :=
        kept.owned trigger (List.mem_append_left _ member) _ isLast
      simpa using owner
    refine bind_eq_ok_iff.mpr ⟨phrase, isPhrase, ?_⟩
    rw [if_neg notEmpty, noOther]

theorem foldlM_addPhrase_eq_ok_iff {spellings : List Document} :
    spellings.foldlM (addPhrase request) triggers = .ok result ↔
      ∃ phrases, spellings.mapM phraseOf = .ok phrases ∧
        result = triggers ++ phrases.map (fun phrase => ⟨phrase, request⟩) ∧
          HaveOwnedPhrases result := by
  induction spellings generalizing triggers with
  | nil =>
    constructor
    · intro folded
      obtain rfl := Except.ok.inj folded
      exact ⟨[], rfl, (List.append_nil _).symm, ownedPhrases⟩
    · rintro ⟨phrases, mapped, rfl, _⟩
      obtain rfl := Except.ok.inj mapped
      exact congrArg Except.ok (List.append_nil _).symm
  | cons spelling rest ih =>
    rw [List.foldlM_cons, bind_eq_ok_iff]
    constructor
    · rintro ⟨next, added, folded⟩
      obtain ⟨phrase, isPhrase, rfl, kept⟩ := (addPhrase_eq_ok_iff ownedPhrases).mp added
      obtain ⟨phrases, mapped, rfl, allKept⟩ := (ih kept).mp folded
      exact ⟨phrase :: phrases, mapM_cons_eq_ok_iff.mpr ⟨phrase, phrases, isPhrase, mapped, rfl⟩,
        List.append_assoc _ _ _, allKept⟩
    · rintro ⟨_, mapped, rfl, allKept⟩
      obtain ⟨phrase, phrases, isPhrase, restMapped, rfl⟩ := mapM_cons_eq_ok_iff.mp mapped
      have split : triggers ++ (phrase :: phrases).map (fun phrase => ⟨phrase, request⟩) =
          (triggers ++ [⟨phrase, request⟩]) ++ phrases.map (fun phrase => ⟨phrase, request⟩) := by
        rw [List.append_assoc, List.map_cons, List.singleton_append]
      have kept : HaveOwnedPhrases (triggers ++ [⟨phrase, request⟩]) :=
        allKept.of_subset (split ▸ List.subset_append_left _ _)
      exact ⟨_, (addPhrase_eq_ok_iff ownedPhrases).mpr ⟨phrase, isPhrase, rfl, kept⟩,
        (ih kept).mpr ⟨phrases, restMapped, split, allKept⟩⟩

theorem addRequest_eq_ok_iff :
    addRequest listing triggers request = .ok result ↔
      ∃ phrases, listedPhrases listing request = .ok phrases ∧ phrases ≠ [] ∧
        result = triggers ++ phrases.map (fun phrase => ⟨phrase, request⟩) ∧
          HaveOwnedPhrases result := by
  have noneIff : listedPhrases listing request = .ok [] ↔ _ := readMembers_eq_ok_nil_iff
  rw [addRequest]
  split
  · next falsy =>
    constructor
    · exact fun added => absurd added (reject_ne_ok _ _)
    · rintro ⟨phrases, isListed, nonempty, _⟩
      rw [noneIff.mpr falsy] at isListed
      exact absurd (Except.ok.inj isListed).symm nonempty
  · next present =>
    rw [bind_eq_ok_iff]
    constructor
    · rintro ⟨spellings, isListed, folded⟩
      obtain ⟨phrases, mapped, rfl, kept⟩ := (foldlM_addPhrase_eq_ok_iff ownedPhrases).mp folded
      have arePhrases : listedPhrases listing request = .ok phrases :=
        bind_eq_ok_iff.mpr ⟨spellings, isListed, mapped⟩
      refine ⟨phrases, arePhrases, ?_, rfl, kept⟩
      rintro rfl
      exact present (noneIff.mp arePhrases)
    · rintro ⟨phrases, arePhrases, _, isResult⟩
      obtain ⟨spellings, isListed, mapped⟩ := bind_eq_ok_iff.mp arePhrases
      exact ⟨spellings, isListed,
        (foldlM_addPhrase_eq_ok_iff ownedPhrases).mpr ⟨phrases, mapped, isResult⟩⟩

/-- The triggers of requests are added exactly if each request has one and the phrases stay
owned. -/
theorem foldlM_addRequest_eq_ok_iff {requests : List RequestWord} :
    requests.foldlM (addRequest listing) triggers = .ok result ↔
      ∃ listed, triggersOf listing requests = .ok listed ∧
        (∀ request ∈ requests, listedPhrases listing request ≠ .ok []) ∧
          result = triggers ++ listed ∧ HaveOwnedPhrases result := by
  induction requests generalizing triggers with
  | nil =>
    constructor
    · intro folded
      obtain rfl := Except.ok.inj folded
      exact ⟨[], rfl, (fun _ member => by cases member), (List.append_nil _).symm, ownedPhrases⟩
    · rintro ⟨listed, isListed, _, rfl, _⟩
      obtain rfl := Except.ok.inj isListed
      exact congrArg Except.ok (List.append_nil _).symm
  | cons request rest ih =>
    rw [List.foldlM_cons, bind_eq_ok_iff]
    constructor
    · rintro ⟨next, added, folded⟩
      obtain ⟨phrases, arePhrases, nonempty, rfl, kept⟩ :=
        (addRequest_eq_ok_iff ownedPhrases).mp added
      obtain ⟨others, areOthers, present, rfl, allKept⟩ := (ih kept).mp folded
      refine ⟨_, triggersOf_cons_eq_ok_iff.mpr ⟨phrases, others, arePhrases, areOthers, rfl⟩,
        List.forall_mem_cons.mpr ⟨fun none => ?_, present⟩, List.append_assoc _ _ _, allKept⟩
      rw [arePhrases] at none
      exact nonempty (Except.ok.inj none)
    · rintro ⟨_, isListed, present, rfl, allKept⟩
      obtain ⟨phrases, others, arePhrases, areOthers, rfl⟩ := triggersOf_cons_eq_ok_iff.mp isListed
      obtain ⟨requestPresent, restPresent⟩ := List.forall_mem_cons.mp present
      have split := (List.append_assoc triggers (phrases.map (⟨·, request⟩)) others).symm
      have kept : HaveOwnedPhrases (triggers ++ phrases.map (⟨·, request⟩)) :=
        allKept.of_subset (split ▸ List.subset_append_left _ _)
      have nonempty : phrases ≠ [] := fun none => requestPresent (none ▸ arePhrases)
      exact ⟨_, (addRequest_eq_ok_iff ownedPhrases).mpr ⟨phrases, arePhrases, nonempty, rfl, kept⟩,
        (ih kept).mpr ⟨others, areOthers, restPresent, split, allKept⟩⟩

end

theorem checkRequestNames_eq_ok_iff {listing : List (Scalar × Document)} :
    checkRequestNames listing = .ok () ↔ ∀ entry ∈ listing, isRequestName entry.1 := by
  have noneIff : (listing.map Prod.fst).filter (fun key => !isRequestName key) = [] ↔
      ∀ entry ∈ listing, isRequestName entry.1 := by
    simp [List.filter_eq_nil_iff]
  rw [← noneIff, checkRequestNames]
  split
  · next none => simp [none]
  · next unknown notNone =>
    refine iff_of_false (fun accepted => ?_) notNone
    obtain ⟨_, _, accepted⟩ := bind_eq_ok_iff.mp accepted
    obtain ⟨_, _, accepted⟩ := bind_eq_ok_iff.mp accepted
    exact reject_ne_ok _ _ accepted

/-- What the triggers of a definition must be. -/
structure TriggersFit (definition : Document) (triggers : List Trigger) : Prop where
  present : definition.HasPart "triggers".toList
  named : ∀ entry ∈ definition.part "triggers".toList, isRequestName entry.1
  requested : ∀ request, listedPhrases (definition.part "triggers".toList) request ≠ .ok []
  listed : ∃ listed, listedTriggers definition = .ok listed ∧ HaveOwnedPhrases listed ∧
    triggers = longestFirst listed

theorem mem_all_requests (request : RequestWord) : request ∈ RequestWord.all := by
  cases request <;> decide

theorem readTriggers_eq_ok_iff {definition : List (Scalar × Document)} {triggers : List Trigger} :
    readTriggers definition = .ok triggers ↔ TriggersFit (.mapping definition) triggers := by
  rw [readTriggers]
  constructor
  · intro accepted
    split at accepted
    · next listing found =>
      obtain rfl := Document.part_eq_of_find? found
      obtain ⟨_, named, accepted⟩ := bind_eq_ok_iff.mp accepted
      obtain ⟨unsorted, folded, rfl⟩ := map_eq_ok_iff.mp accepted
      obtain ⟨listed, isListed, requested, same, ownedPhrases⟩ :=
        (foldlM_addRequest_eq_ok_iff haveOwnedPhrases_nil).mp folded
      rw [List.nil_append] at same
      exact ⟨found, checkRequestNames_eq_ok_iff.mp named,
        fun request => requested request (mem_all_requests request), unsorted, same ▸ isListed,
        ownedPhrases, rfl⟩
    · exact absurd accepted (reject_ne_ok _ _)
  · rintro ⟨present, named, requested, listed, isListed, ownedPhrases, rfl⟩
    rw [Document.HasPart, Document.entries] at present
    rw [present]
    refine bind_eq_ok_iff.mpr ⟨(), checkRequestNames_eq_ok_iff.mpr named, ?_⟩
    exact map_eq_ok_iff.mpr ⟨listed, (foldlM_addRequest_eq_ok_iff haveOwnedPhrases_nil).mpr
      ⟨listed, isListed, fun request _ => requested request, rfl, ownedPhrases⟩, rfl⟩

/-! ### Keys -/

theorem text_of_textOf? {key : Scalar} {value : Text} (isText : textOf? key = some value) :
    key = .text value := by
  cases key with
  | text other => exact congrArg Scalar.text (Option.some.inj isText)
  | _ => cases isText

/-- A key stands for a digit exactly if its whole number is the digit. -/
theorem digitKey_eq_ok_iff {key : Scalar} {digit : Digit} :
    digitKey key = .ok digit ↔ wholeKey? key = .ok (some (digit.val : Int)) := by
  rw [digitKey, bind_eq_ok_iff]
  constructor
  · rintro ⟨whole, isWhole, accepted⟩
    split at accepted
    · obtain ⟨_, _, accepted⟩ := bind_eq_ok_iff.mp accepted
      exact absurd accepted (reject_ne_ok _ _)
    · split at accepted
      · next inRange =>
        obtain rfl := Except.ok.inj accepted
        rw [isWhole, Int.toNat_of_nonneg inRange.1]
      · obtain ⟨_, _, accepted⟩ := bind_eq_ok_iff.mp accepted
        exact absurd accepted (reject_ne_ok _ _)
  · intro isWhole
    refine ⟨_, isWhole, ?_⟩
    have inRange : 0 ≤ (digit.val : Int) ∧ (digit.val : Int) ≤ 9 := by omega
    exact (dif_pos inRange).trans (congrArg Except.ok (Fin.ext (Int.toNat_natCast _)))

/-- A key stands for a contact category exactly if it is the name of the category. -/
theorem categoryKey_eq_ok_iff {key : Scalar} {category : ContactCategory} :
    categoryKey key = .ok category ↔ key = .text category.name := by
  rw [categoryKey]
  constructor
  · intro accepted
    split at accepted
    · next named =>
      obtain rfl := Except.ok.inj accepted
      obtain ⟨name, isText, isNamed⟩ := Option.bind_eq_some_iff.mp named
      have sameName := List.find?_some isNamed
      rw [text_of_textOf? isText, eq_of_beq sameName]
    · obtain ⟨_, _, accepted⟩ := bind_eq_ok_iff.mp accepted
      exact absurd accepted (reject_ne_ok _ _)
  · rintro rfl
    cases category <;> rfl

/-! ### Tables of words -/

/-- Every digit has a word exactly if none is missing. -/
theorem digitsWithoutWord_eq_nil_iff {table : List (Text × Digit)} :
    digitsWithoutWord table = [] ↔ ∀ digit, ∃ word, (word, digit) ∈ table := by
  rw [digitsWithoutWord, List.filter_eq_nil_iff]
  simp [List.mem_finRange]

/-- What the words for digits of a definition must be. -/
structure DigitsFit (definition : Document) (table : List (Text × Digit)) : Prop where
  present : definition.HasPart "digits".toList
  listed : ∃ listed, listedDigits definition = .ok listed ∧
    table = Table.ofEntries (· == ·) listed
  everyDigit : ∀ digit, ∃ word, table.lookup word = some digit

theorem readDigits_eq_ok_iff {definition : List (Scalar × Document)} {table : List (Text × Digit)} :
    readDigits definition = .ok table ↔ DigitsFit (.mapping definition) table := by
  have noneMissing (listed : List (Text × Digit)) :
      digitsWithoutWord (Table.ofEntries (· == ·) listed) = [] ↔
        ∀ digit, ∃ word, (Table.ofEntries (· == ·) listed).lookup word = some digit := by
    simp only [digitsWithoutWord_eq_nil_iff,
      Table.lookup_eq_some_iff_mem (Table.nodup_keys_ofEntries listed)]
  rw [readDigits]
  constructor
  · intro accepted
    split at accepted
    · next listing found =>
      obtain rfl := Document.part_eq_of_find? found
      obtain ⟨made, folded, accepted⟩ := bind_eq_ok_iff.mp accepted
      rw [foldlM_addWords] at folded
      obtain ⟨listed, isListed, rfl⟩ := map_eq_ok_iff.mp folded
      split at accepted
      · next none =>
        obtain rfl := Except.ok.inj accepted
        exact ⟨found, ⟨listed, isListed, rfl⟩, (noneMissing listed).mp none⟩
      · obtain ⟨_, _, accepted⟩ := bind_eq_ok_iff.mp accepted
        exact absurd accepted (reject_ne_ok _ _)
    · exact absurd accepted (reject_ne_ok _ _)
  · rintro ⟨present, ⟨listed, isListed, rfl⟩, everyDigit⟩
    rw [Document.HasPart, Document.entries] at present
    rw [present]
    refine bind_eq_ok_iff.mpr ⟨Table.ofEntries (· == ·) listed, ?_, ?_⟩
    · rw [foldlM_addWords]
      exact map_eq_ok_iff.mpr ⟨listed, isListed, rfl⟩
    · rw [(noneMissing listed).mpr everyDigit]

/-- What the words for contact categories of a definition must be; there may be none. -/
structure CategoriesFit (definition : Document) (table : List (Text × ContactCategory)) :
    Prop where
  present : definition.HasPart "contact_categories".toList ∨
    ((Document.find? "contact_categories".toList definition.entries).getD .null).isFalsy
  listed : ∃ listed, listedCategories definition = .ok listed ∧
    table = Table.ofEntries (· == ·) listed

theorem readCategories_eq_ok_iff {definition : List (Scalar × Document)}
    {table : List (Text × ContactCategory)} :
    readCategories definition = .ok table ↔ CategoriesFit (.mapping definition) table := by
  rw [readCategories]
  by_cases falsy :
      ((Document.find? "contact_categories".toList definition).getD .null).isFalsy
  · have none : listedCategories (.mapping definition) = .ok [] := by
      rw [listedCategories, Document.part, Document.entries, Document.entries_of_isFalsy falsy]
      rfl
    rw [if_pos falsy]
    constructor
    · intro accepted
      obtain rfl := Except.ok.inj accepted
      exact ⟨.inr falsy, [], none, rfl⟩
    · rintro ⟨_, listed, isListed, rfl⟩
      rw [none] at isListed
      obtain rfl := Except.ok.inj isListed
      rfl
  · rw [if_neg falsy]
    constructor
    · intro accepted
      split at accepted
      · next listing isMapping =>
        have found := Document.find?_eq_some_of_getD isMapping
        obtain rfl := Document.part_eq_of_find? found
        rw [foldlM_addWords] at accepted
        obtain ⟨listed, isListed, rfl⟩ := map_eq_ok_iff.mp accepted
        exact ⟨.inl found, listed, isListed, rfl⟩
      · exact absurd accepted (reject_ne_ok _ _)
    · rintro ⟨present, listed, isListed, rfl⟩
      have found := present.resolve_right falsy
      rw [Document.HasPart, Document.entries] at found
      rw [found, Option.getD_some]
      exact (foldlM_addWords _ _).trans (map_eq_ok_iff.mpr ⟨listed, isListed, rfl⟩)

/-! ### Definitions -/

/-- The document under the universal alias of a definition, the empty text if there is none. -/
def aliasOf (definition : Document) : Document :=
  (Document.find? "universal_alias".toList definition.entries).getD (.text [])

theorem readAlias_eq_ok_iff {definition : List (Scalar × Document)} {universalAlias : Text} :
    readAlias definition = .ok universalAlias ↔
      phraseOf (aliasOf (.mapping definition)) = .ok [universalAlias] := by
  constructor
  · intro accepted
    obtain ⟨phrase, isPhrase, accepted⟩ := bind_eq_ok_iff.mp accepted
    split at accepted
    · obtain rfl := Except.ok.inj accepted
      exact isPhrase
    · exact absurd accepted (reject_ne_ok _ _)
  · intro isPhrase
    exact bind_eq_ok_iff.mpr ⟨[universalAlias], isPhrase, rfl⟩

/-- What it takes for a definition to be accepted as that of a vocabulary. -/
structure Defines (definition : Document) (vocabulary : Vocabulary) : Prop where
  isMapping : definition = .mapping definition.entries
  universalAlias : phraseOf (aliasOf definition) = .ok [vocabulary.universalAlias]
  triggers : TriggersFit definition vocabulary.triggers
  digits : DigitsFit definition vocabulary.digits
  categories : CategoriesFit definition vocabulary.categories

/-- A definition is accepted exactly if its parts fit, and each part gives a part of the
vocabulary. -/
theorem ofDocument_eq_ok_iff {definition : Document} {vocabulary : Vocabulary} :
    ofDocument definition = .ok vocabulary ↔ Defines definition vocabulary := by
  constructor
  · intro accepted
    rw [ofDocument.eq_def] at accepted
    split at accepted
    · obtain ⟨universalAlias, isAlias, accepted⟩ := bind_eq_ok_iff.mp accepted
      obtain ⟨triggers, areTriggers, accepted⟩ := bind_eq_ok_iff.mp accepted
      obtain ⟨digits, areDigits, accepted⟩ := bind_eq_ok_iff.mp accepted
      obtain ⟨categories, areCategories, accepted⟩ := bind_eq_ok_iff.mp accepted
      obtain rfl := Except.ok.inj accepted
      exact ⟨rfl, readAlias_eq_ok_iff.mp isAlias, readTriggers_eq_ok_iff.mp areTriggers,
        readDigits_eq_ok_iff.mp areDigits, readCategories_eq_ok_iff.mp areCategories⟩
    · exact absurd accepted (reject_ne_ok _ _)
  · rintro ⟨isMapping, isAlias, areTriggers, areDigits, areCategories⟩
    rw [isMapping] at isAlias areTriggers areDigits areCategories ⊢
    rw [ofDocument.eq_def]
    refine bind_eq_ok_iff.mpr ⟨_, readAlias_eq_ok_iff.mpr isAlias, ?_⟩
    refine bind_eq_ok_iff.mpr ⟨_, readTriggers_eq_ok_iff.mpr areTriggers, ?_⟩
    refine bind_eq_ok_iff.mpr ⟨_, readDigits_eq_ok_iff.mpr areDigits, ?_⟩
    exact bind_eq_ok_iff.mpr ⟨_, readCategories_eq_ok_iff.mpr areCategories, rfl⟩

/-- The triggers of an accepted definition have owned phrases, longer ones first. -/
theorem ofDocument_triggers {document : Document} {vocabulary : Vocabulary}
    (accepted : ofDocument document = .ok vocabulary) :
    HaveOwnedPhrases vocabulary.triggers ∧ AreLongestFirst vocabulary.triggers := by
  obtain ⟨listed, _, ownedPhrases, areSorted⟩ := (ofDocument_eq_ok_iff.mp accepted).triggers.listed
  rw [areSorted]
  exact ⟨ownedPhrases.of_perm (longestFirst_perm listed), longestFirst_areLongestFirst listed⟩

end Vocabulary

end RadioCall
