/-
This file says what a definition lists, apart from how it is checked: the phrases of each
request, the words for each digit and the words for each contact category, in the form in
which they are compared and in the order of the definition. The tables of an accepted
vocabulary are made of these lists entry by entry, so what a word means is decided by the
lists alone.
-/

import RadioCall.Proofs.Checked
import RadioCall.Vocabulary.Definition

namespace RadioCall

/-! ### Parts of a definition -/

namespace Document

/-- The entries of a mapping; other documents have none. -/
def entries : Document → List (Scalar × Document)
  | mapping entries => entries
  | _ => []

/-- The entries of the part of a definition that has this name. -/
def part (name : Text) (definition : Document) : List (Scalar × Document) :=
  ((find? name definition.entries).getD null).entries

/-- Whether a definition has a mapping as the part of this name. -/
def HasPart (name : Text) (definition : Document) : Prop :=
  find? name definition.entries = some (mapping (definition.part name))

theorem part_eq_of_find? {name : Text} {definition listing : List (Scalar × Document)}
    (found : find? name definition = some (mapping listing)) :
    (mapping definition).part name = listing := by
  rw [part, entries, found, Option.getD_some, entries]

theorem find?_eq_some_of_getD {name : Text} {definition listing : List (Scalar × Document)}
    (isMapping : (find? name definition).getD null = mapping listing) :
    find? name definition = some (mapping listing) := by
  refine (Option.getD_eq_iff.mp isMapping).resolve_right fun absent => ?_
  cases absent.2

theorem entries_of_isFalsy {document : Document} (falsy : document.isFalsy) :
    document.entries = [] := by
  cases document with
  | mapping entries => exact List.isEmpty_iff.mp falsy
  | _ => rfl

end Document

namespace Vocabulary

/-! ### Listed items -/

variable {α : Type}

/-- What a document lists, each item as it is read. -/
def readMembers (read : Document → Except Fault α) (listed : Document) :
    Except Fault (List α) := do
  (← listed.members).mapM read

/-- The phrases that are listed for a request. -/
def listedPhrases (listing : List (Scalar × Document)) (request : RequestWord) :
    Except Fault (List (List Text)) :=
  readMembers phraseOf ((Document.find? request.name listing).getD .null)

/-- The triggers that are listed for some requests, in their order. -/
def triggersOf (listing : List (Scalar × Document)) (requests : List RequestWord) :
    Except Fault (List Trigger) :=
  List.flatten <$> requests.mapM fun request =>
    (fun phrases => phrases.map fun phrase => ⟨phrase, request⟩) <$> listedPhrases listing request

/-- Whether a word is listed under a key. -/
def IsListedUnder (listing : List (Scalar × Document)) (key : Scalar) (word : Text) : Prop :=
  ∃ listed words, (key, listed) ∈ listing ∧ readMembers entryOf listed = .ok words ∧ word ∈ words

/-- The words that are listed under a key, each with the value that the key stands for. -/
def wordsUnder (valueOf : Scalar → Except Fault α) (entry : Scalar × Document) :
    Except Fault (List (Text × α)) := do
  let value ← valueOf entry.1
  (fun words => words.map fun word => (word, value)) <$> readMembers entryOf entry.2

/-- The words that are listed under some keys, in their order. -/
def wordsOf (valueOf : Scalar → Except Fault α) (listing : List (Scalar × Document)) :
    Except Fault (List (Text × α)) :=
  List.flatten <$> listing.mapM (wordsUnder valueOf)

/-- The triggers that a definition lists, by request and then as the definition has them. -/
def listedTriggers (definition : Document) : Except Fault (List Trigger) :=
  triggersOf (definition.part "triggers".toList) RequestWord.all

/-- The words for digits that a definition lists. -/
def listedDigits (definition : Document) : Except Fault (List (Text × Digit)) :=
  wordsOf digitKey (definition.part "digits".toList)

/-- The words for contact categories that a definition lists. -/
def listedCategories (definition : Document) : Except Fault (List (Text × ContactCategory)) :=
  wordsOf categoryKey (definition.part "contact_categories".toList)

/-! ### Triggers -/

/-- The triggers of several requests are those of the first one and then those of the rest. -/
theorem triggersOf_cons_eq_ok_iff {listing : List (Scalar × Document)} {request : RequestWord}
    {rest : List RequestWord} {listed : List Trigger} :
    triggersOf listing (request :: rest) = .ok listed ↔
      ∃ phrases others, listedPhrases listing request = .ok phrases ∧
        triggersOf listing rest = .ok others ∧
          listed = phrases.map (fun phrase => ⟨phrase, request⟩) ++ others := by
  constructor
  · intro isListed
    obtain ⟨groups, areGroups, rfl⟩ := map_eq_ok_iff.mp isListed
    obtain ⟨group, rest, isGroup, areRest, rfl⟩ := mapM_cons_eq_ok_iff.mp areGroups
    obtain ⟨phrases, arePhrases, rfl⟩ := map_eq_ok_iff.mp isGroup
    exact ⟨phrases, rest.flatten, arePhrases, map_eq_ok_iff.mpr ⟨rest, areRest, rfl⟩, rfl⟩
  · rintro ⟨phrases, others, arePhrases, areOthers, rfl⟩
    obtain ⟨groups, areGroups, rfl⟩ := map_eq_ok_iff.mp areOthers
    exact map_eq_ok_iff.mpr ⟨_, mapM_cons_eq_ok_iff.mpr
      ⟨_, groups, map_eq_ok_iff.mpr ⟨phrases, arePhrases, rfl⟩, areGroups, rfl⟩, rfl⟩

/-- A trigger is listed if its phrase is among those of its request. -/
theorem mem_triggersOf_iff {listing : List (Scalar × Document)} {requests : List RequestWord}
    {listed : List Trigger} (isListed : triggersOf listing requests = .ok listed)
    {trigger : Trigger} :
    trigger ∈ listed ↔ trigger.request ∈ requests ∧
      ∃ phrases, listedPhrases listing trigger.request = .ok phrases ∧ trigger.phrase ∈ phrases := by
  obtain ⟨groups, areGroups, rfl⟩ := map_eq_ok_iff.mp isListed
  rw [List.mem_flatten]
  constructor
  · rintro ⟨group, isGroup, member⟩
    obtain ⟨request, isRequest, isUnder⟩ := (mem_of_mapM_eq_ok_iff areGroups).mp isGroup
    obtain ⟨phrases, arePhrases, rfl⟩ := map_eq_ok_iff.mp isUnder
    obtain ⟨phrase, isPhrase, rfl⟩ := List.mem_map.mp member
    exact ⟨isRequest, phrases, arePhrases, isPhrase⟩
  · rintro ⟨isRequest, phrases, arePhrases, isPhrase⟩
    exact ⟨_, (mem_of_mapM_eq_ok_iff areGroups).mpr
      ⟨trigger.request, isRequest, map_eq_ok_iff.mpr ⟨phrases, arePhrases, rfl⟩⟩,
      List.mem_map.mpr ⟨trigger.phrase, isPhrase, rfl⟩⟩

/-! ### Tables of words -/

/-- Where the words of a section can be read, each of its keys stands for a value. -/
theorem exists_of_wordsOf_eq_ok {valueOf : Scalar → Except Fault α}
    {listing : List (Scalar × Document)} {listed : List (Text × α)}
    (isListed : wordsOf valueOf listing = .ok listed) :
    ∀ entry ∈ listing, ∃ value, valueOf entry.1 = .ok value := by
  intro entry member
  obtain ⟨groups, areGroups, _⟩ := map_eq_ok_iff.mp isListed
  cases isUnder : wordsUnder valueOf entry with
  | error fault =>
    obtain ⟨earlier, fails⟩ := mapM_eq_error_of_mem member isUnder
    rw [areGroups] at fails
    cases fails
  | ok group =>
    obtain ⟨value, isValue, _⟩ := bind_eq_ok_iff.mp isUnder
    exact ⟨value, isValue⟩

/-- A word is listed with a value if it is listed under a key for the value. -/
theorem mem_wordsOf_iff {valueOf : Scalar → Except Fault α} {listing : List (Scalar × Document)}
    {listed : List (Text × α)} (isListed : wordsOf valueOf listing = .ok listed) {word : Text}
    {value : α} :
    (word, value) ∈ listed ↔ ∃ key, valueOf key = .ok value ∧ IsListedUnder listing key word := by
  obtain ⟨groups, areGroups, rfl⟩ := map_eq_ok_iff.mp isListed
  rw [List.mem_flatten]
  constructor
  · rintro ⟨group, isGroup, member⟩
    obtain ⟨⟨key, document⟩, isEntry, isUnder⟩ := (mem_of_mapM_eq_ok_iff areGroups).mp isGroup
    obtain ⟨other, isValue, isUnder⟩ := bind_eq_ok_iff.mp isUnder
    obtain ⟨words, areWords, rfl⟩ := map_eq_ok_iff.mp isUnder
    obtain ⟨_, isWord, same⟩ := List.mem_map.mp member
    obtain ⟨rfl, rfl⟩ := Prod.mk.inj same
    exact ⟨key, isValue, document, words, isEntry, areWords, isWord⟩
  · rintro ⟨key, isValue, document, words, isEntry, areWords, isWord⟩
    have isUnder : wordsUnder valueOf (key, document) = .ok (words.map fun word => (word, value)) :=
      bind_eq_ok_iff.mpr ⟨value, isValue, map_eq_ok_iff.mpr ⟨words, areWords, rfl⟩⟩
    exact ⟨_, (mem_of_mapM_eq_ok_iff areGroups).mpr ⟨(key, document), isEntry, isUnder⟩,
      List.mem_map.mpr ⟨word, isWord, rfl⟩⟩

/-- Adding words under one value is adding their entries. -/
theorem addWords_eq (value : α) (table : List (Text × α)) (listed : Document) :
    addWords value table listed =
      (fun words => words.foldl (fun table word => Table.put (· == ·) table word value) table) <$>
        readMembers entryOf listed := by
  rw [addWords, readMembers]
  cases listed.members with
  | error fault => rfl
  | ok members => exact foldlM_map_eq

/-- The table of a section is made of the words that the section lists. -/
theorem foldlM_addWords (valueOf : Scalar → Except Fault α) (listing : List (Scalar × Document)) :
    listing.foldlM (fun table entry => do addWords (← valueOf entry.1) table entry.2) [] =
      Table.ofEntries (· == ·) <$> wordsOf valueOf listing := by
  have step (table : List (Text × α)) (entry : Scalar × Document) :
      (do addWords (← valueOf entry.1) table entry.2) =
        (fun group => group.foldl
          (fun table entry => Table.put (· == ·) table entry.1 entry.2) table) <$>
            wordsUnder valueOf entry := by
    rw [wordsUnder]
    cases valueOf entry.1 with
    | error fault => rfl
    | ok value =>
      refine (addWords_eq value table entry.2).trans ?_
      cases readMembers entryOf entry.2 with
      | error fault => rfl
      | ok words =>
        refine congrArg Except.ok ?_
        simp only [List.foldl_map]
  simp only [step]
  rw [foldlM_map_eq, wordsOf]
  cases listing.mapM (wordsUnder valueOf) with
  | error fault => rfl
  | ok groups => exact congrArg Except.ok List.foldl_flatten.symm

end Vocabulary

end RadioCall
