/-
This file says in which form a vocabulary keeps its phrases and words: words in small letters,
with single spaces where they are joined. The form is final. A phrase or word that was read from
a definition comes out as it is when it is read again, so it can be written into another one.
-/

import RadioCall.Proofs.Text.LetterCase
import RadioCall.Proofs.Text.Words
import RadioCall.Proofs.Vocabulary.Acceptance

namespace RadioCall

/-! ### Phrases in small letters -/

/-- A phrase of words in small letters. -/
structure IsLowercasePhrase (phrase : List Text) : Prop where
  areWords : ∀ word ∈ phrase, IsWord word
  areSmall : ∀ word ∈ phrase, ∀ character ∈ word, IsSmall character

instance (phrase : List Text) : Decidable (IsLowercasePhrase phrase) :=
  decidable_of_iff ((∀ word ∈ phrase, IsWord word) ∧
      ∀ word ∈ phrase, word.all fun character => IsSmall character) <| by
    simp only [List.all_eq_true, decide_eq_true_eq]
    exact ⟨fun both => ⟨both.1, both.2⟩, fun lowercase => ⟨lowercase.areWords, lowercase.areSmall⟩⟩

theorem isLowercasePhrase_words_lower (text : Text) : IsLowercasePhrase (words (lower text)) where
  areWords := fun _ member => isWord_of_mem_words member
  areSmall := fun _ member _ inWord => isSmall_of_mem_lower (subset_of_mem_runsOf member inWord)

namespace IsLowercasePhrase

variable {phrase : List Text} (lowercase : IsLowercasePhrase phrase)

include lowercase

theorem isSmall_of_mem_sentence {character : Char} (member : character ∈ sentence phrase) :
    IsSmall character := by
  rcases mem_sentence member with rfl | ⟨word, isMember, inWord⟩
  · decide
  · exact lowercase.areSmall word isMember character inWord

/-- Written with single spaces, the phrase has its own words again. -/
theorem words_lower_sentence : words (lower (sentence phrase)) = phrase := by
  rw [lower_of_isSmall fun _ member => lowercase.isSmall_of_mem_sentence member,
    words_sentence lowercase.areWords]

theorem phraseOf_sentence : Vocabulary.phraseOf (.text (sentence phrase)) = .ok phrase :=
  map_eq_ok_iff.mpr ⟨sentence phrase, rfl, lowercase.words_lower_sentence⟩

theorem entryOf_sentence : Vocabulary.entryOf (.text (sentence phrase)) = .ok (sentence phrase) :=
  map_eq_ok_iff.mpr ⟨phrase, lowercase.phraseOf_sentence, rfl⟩

end IsLowercasePhrase

/-! ### Vocabularies in small letters -/

namespace Vocabulary

theorem isLowercasePhrase_of_phraseOf {document : Document} {phrase : List Text}
    (isPhrase : phraseOf document = .ok phrase) : IsLowercasePhrase phrase := by
  obtain ⟨spoken, _, rfl⟩ := map_eq_ok_iff.mp isPhrase
  exact isLowercasePhrase_words_lower spoken

/-- An entry of a table is read again as it is. -/
theorem entryOf_text_of_entryOf {document : Document} {word : Text}
    (isEntry : entryOf document = .ok word) : entryOf (.text word) = .ok word := by
  obtain ⟨phrase, isPhrase, rfl⟩ := map_eq_ok_iff.mp isEntry
  exact (isLowercasePhrase_of_phraseOf isPhrase).entryOf_sentence

/-- Whether all phrases and words of a vocabulary are in the form in which they are read. -/
structure IsLowercase (vocabulary : Vocabulary) : Prop where
  universalAlias : IsLowercasePhrase [vocabulary.universalAlias]
  triggers : ∀ trigger ∈ vocabulary.triggers, IsLowercasePhrase trigger.phrase
  digits : ∀ entry ∈ vocabulary.digits, entryOf (.text entry.1) = .ok entry.1
  categories : ∀ entry ∈ vocabulary.categories, entryOf (.text entry.1) = .ok entry.1

theorem isLowercasePhrase_of_mem_triggersOf {listing : List (Scalar × Document)}
    {requests : List RequestWord} {listed : List Trigger}
    (isListed : triggersOf listing requests = .ok listed) {trigger : Trigger}
    (member : trigger ∈ listed) : IsLowercasePhrase trigger.phrase := by
  obtain ⟨_, phrases, arePhrases, isPhrase⟩ := (mem_triggersOf_iff isListed).mp member
  obtain ⟨members, _, mapped⟩ := bind_eq_ok_iff.mp arePhrases
  obtain ⟨spelling, _, isSpelling⟩ := (mem_of_mapM_eq_ok_iff mapped).mp isPhrase
  exact isLowercasePhrase_of_phraseOf isSpelling

theorem entryOf_text_of_mem_ofEntries {α : Type} {valueOf : Scalar → Except Fault α}
    {listing : List (Scalar × Document)} {listed : List (Text × α)}
    (isListed : wordsOf valueOf listing = .ok listed) {entry : Text × α}
    (member : entry ∈ Table.ofEntries (· == ·) listed) : entryOf (.text entry.1) = .ok entry.1 := by
  have found := (Table.lookup_eq_some_iff_mem (Table.nodup_keys_ofEntries listed)).mpr member
  have isEntry := (Table.lookup_ofEntries_eq_some_iff.mp found).mem
  obtain ⟨_, _, _, words, _, areWords, isWord⟩ := (mem_wordsOf_iff isListed).mp isEntry
  obtain ⟨members, _, mapped⟩ := bind_eq_ok_iff.mp areWords
  obtain ⟨_, _, isSpelling⟩ := (mem_of_mapM_eq_ok_iff mapped).mp isWord
  exact entryOf_text_of_entryOf isSpelling

/-- Every accepted definition gives a vocabulary in small letters. -/
theorem ofDocument_isLowercase {definition : Document} {vocabulary : Vocabulary}
    (accepted : ofDocument definition = .ok vocabulary) : vocabulary.IsLowercase := by
  obtain ⟨_, isAlias, triggers, digits, categories⟩ := ofDocument_eq_ok_iff.mp accepted
  obtain ⟨listed, isListed, _, areSorted⟩ := triggers.listed
  obtain ⟨words, areWords, isTable⟩ := digits.listed
  obtain ⟨names, areNames, isNameTable⟩ := categories.listed
  constructor
  · exact isLowercasePhrase_of_phraseOf isAlias
  · intro trigger member
    rw [areSorted] at member
    exact isLowercasePhrase_of_mem_triggersOf isListed
      ((longestFirst_perm listed).mem_iff.mp member)
  · exact fun _ member => entryOf_text_of_mem_ofEntries areWords (isTable ▸ member)
  · exact fun _ member => entryOf_text_of_mem_ofEntries areNames (isNameTable ▸ member)

end Vocabulary

end RadioCall
