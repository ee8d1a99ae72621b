/-
This file shows that a vocabulary can be written down and built again. The definition that lists
its phrases by request and its words by value is accepted, and gives the same alias, the same
triggers in the same order and the same tables. The words of the new tables may stand in another
order than those of the old ones, which is of no consequence for what is found in them. It also
does not matter in which order the definition goes through the requests, digits and categories.
-/

import RadioCall.Proofs.Vocabulary.Invariants
import RadioCall.Proofs.Vocabulary.Spelling

namespace RadioCall

/-! ### Lists by kind -/

section

variable {α κ : Type} [DecidableEq κ] {kind : α → κ}

theorem mem_of_filter_eq {item : α} {items others : List α} (member : item ∈ items)
    (same : items.filter (fun other => kind other = kind item) =
      others.filter fun other => kind other = kind item) : item ∈ others := by
  have ofKind : item ∈ items.filter fun other => kind other = kind item :=
    List.mem_filter.mpr ⟨member, decide_eq_true rfl⟩
  rw [same] at ofKind
  exact List.mem_of_mem_filter ofKind

/-- A sorted list is determined by its items of each kind, if items of different kinds are
never in either order. -/
theorem eq_of_filter_eq {precedes : α → α → Prop}
    (antisymmetric : ∀ one other, precedes one other → precedes other one → kind one = kind other)
    {first second : List α} (firstSorted : first.Pairwise precedes)
    (secondSorted : second.Pairwise precedes)
    (same : ∀ ofKind, first.filter (fun item => kind item = ofKind) =
      second.filter fun item => kind item = ofKind) : first = second := by
  induction first generalizing second with
  | nil =>
    cases second with
    | nil => rfl
    | cons item rest => cases mem_of_filter_eq List.mem_cons_self (same (kind item)).symm
  | cons one rest ih =>
    cases second with
    | nil => cases mem_of_filter_eq List.mem_cons_self (same (kind one))
    | cons other others =>
      obtain ⟨oneFirst, restSorted⟩ := List.pairwise_cons.mp firstSorted
      obtain ⟨otherFirst, othersSorted⟩ := List.pairwise_cons.mp secondSorted
      have sameKind : kind one = kind other := by
        have inSecond := mem_of_filter_eq List.mem_cons_self (same (kind one))
        have inFirst := mem_of_filter_eq List.mem_cons_self (same (kind other)).symm
        rcases List.mem_cons.mp inSecond with isOther | later
        · rw [isOther]
        · rcases List.mem_cons.mp inFirst with isOne | earlier
          · rw [isOne]
          · exact antisymmetric one other (oneFirst other earlier) (otherFirst one later)
      have heads := same (kind one)
      simp only [List.filter_cons, sameKind, decide_true, if_true] at heads
      obtain ⟨rfl, _⟩ := List.cons_eq_cons.mp heads
      refine congrArg (one :: ·) (ih restSorted othersSorted fun ofKind => ?_)
      have tails := same ofKind
      rw [List.filter_cons, List.filter_cons] at tails
      split at tails
      · exact (List.cons_eq_cons.mp tails).2
      · exact tails

end

namespace Vocabulary

/-! ### Triggers -/

section

variable {vocabulary : Vocabulary} {requests : List RequestWord}

/-- The phrases of a vocabulary under some requests, as a definition lists them. -/
def phraseListing (vocabulary : Vocabulary) (requests : List RequestWord) :
    List (Scalar × Document) :=
  requests.map fun request =>
    (.text request.name,
      .list ((vocabulary.phrasesFor request).map fun phrase => .text (sentence phrase)))

theorem find?_phraseListing {request : RequestWord} (member : request ∈ requests) :
    Document.find? request.name (vocabulary.phraseListing requests) =
      some (.list ((vocabulary.phrasesFor request).map fun phrase => .text (sentence phrase))) := by
  induction requests with
  | nil => cases member
  | cons first rest ih =>
    have named : (Scalar.text first.name).isSameKey (.text request.name) ↔ first = request := by
      cases first <;> cases request <;> decide
    rw [phraseListing, List.map_cons, Document.find?]
    split
    · next same => rw [named.mp same]
    · next other =>
      rcases List.mem_cons.mp member with rfl | later
      · exact absurd (named.mpr rfl) other
      · exact ih later

/-- The triggers of one request are its phrases, in the order in which they are tried. -/
theorem map_phrasesFor (request : RequestWord) :
    (vocabulary.phrasesFor request).map (fun phrase => ⟨phrase, request⟩) =
      vocabulary.triggers.filter fun trigger => trigger.request = request := by
  rw [phrasesFor, List.map_map]
  refine (List.map_congr_left fun trigger member => ?_).trans (List.map_id _)
  have isRequest : trigger.request = request := of_decide_eq_true (List.mem_filter.mp member).2
  rw [Function.comp_apply, ← isRequest, id_eq]

theorem mem_phrasesFor_iff {request : RequestWord} {phrase : List Text} :
    phrase ∈ vocabulary.phrasesFor request ↔ ⟨phrase, request⟩ ∈ vocabulary.triggers := by
  rw [phrasesFor, List.mem_map]
  constructor
  · rintro ⟨trigger, member, rfl⟩
    obtain ⟨isTrigger, isRequest⟩ := List.mem_filter.mp member
    exact (of_decide_eq_true isRequest : trigger.request = request) ▸ isTrigger
  · exact fun member => ⟨_, List.mem_filter.mpr ⟨member, decide_eq_true rfl⟩, rfl⟩

theorem listedPhrases_phraseListing (lowercase : vocabulary.IsLowercase) {request : RequestWord}
    (member : request ∈ requests) :
    listedPhrases (vocabulary.phraseListing requests) request =
      .ok (vocabulary.phrasesFor request) := by
  have readBack : ((vocabulary.phrasesFor request).map fun phrase => Document.text (sentence phrase)
      ).mapM phraseOf = .ok ((vocabulary.phrasesFor request).map id) :=
    mapM_map_eq_ok fun phrase isPhrase =>
      (lowercase.triggers _ (mem_phrasesFor_iff.mp isPhrase)).phraseOf_sentence
  rw [List.map_id] at readBack
  rw [listedPhrases, find?_phraseListing member, Option.getD_some]
  exact bind_eq_ok_iff.mpr ⟨_, rfl, readBack⟩

/-- Whatever the order in which the requests are listed, the triggers are read in their own. -/
theorem triggersOf_phraseListing (lowercase : vocabulary.IsLowercase)
    {asked : List RequestWord} (subset : asked ⊆ requests) :
    triggersOf (vocabulary.phraseListing requests) asked =
      .ok (asked.flatMap fun request =>
        vocabulary.triggers.filter fun trigger => trigger.request = request) := by
  induction asked with
  | nil => rfl
  | cons request rest ih =>
    obtain ⟨member, restSubset⟩ := List.cons_subset.mp subset
    refine triggersOf_cons_eq_ok_iff.mpr ⟨_, _, listedPhrases_phraseListing lowercase member,
      ih restSubset, ?_⟩
    rw [List.flatMap_cons, map_phrasesFor]

theorem isRequestName_name (request : RequestWord) : isRequestName (.text request.name) := by
  cases request <;> decide

/-- Triggers of one length and one request. -/
theorem filter_kind (triggers : List Trigger) (length : Nat) (request : RequestWord) :
    triggers.filter (fun trigger => (trigger.phrase.length, trigger.request) = (length, request)) =
      (triggers.filter fun trigger => trigger.phrase.length = length).filter fun trigger =>
        trigger.request = request := by
  rw [List.filter_filter]
  refine List.filter_congr fun trigger _ => ?_
  rw [← Bool.decide_and]
  exact decide_eq_decide.mpr (by rw [Prod.mk.injEq, and_comm])

/-- In the order of trying, triggers of different lengths or requests keep one order. -/
theorem mayPrecede_antisymm {one other : Trigger} (before : one.MayPrecede other)
    (after : other.MayPrecede one) :
    (one.phrase.length, one.request) = (other.phrase.length, other.request) := by
  have position_inj {first second : RequestWord} (same : first.position = second.position) :
      first = second := by
    revert same
    cases first <;> cases second <;> decide
  rcases before with longer | ⟨same, earlier⟩
  · rcases after with shorter | ⟨same, _⟩ <;> omega
  · rcases after with shorter | ⟨_, later⟩
    · omega
    · rw [same, position_inj (Nat.le_antisymm earlier later)]

/-- The listed phrases give the triggers back, in the same order. -/
theorem longestFirst_byRequest (ordered : vocabulary.triggers.Pairwise Trigger.MayPrecede)
    {listed : List Trigger}
    (byRequest : listed.Pairwise fun first second =>
      first.request.position ≤ second.request.position)
    (sameOfRequest : ∀ request, listed.filter (fun trigger => trigger.request = request) =
      vocabulary.triggers.filter fun trigger => trigger.request = request) :
    longestFirst listed = vocabulary.triggers := by
  refine eq_of_filter_eq (fun _ _ before after => mayPrecede_antisymm before after)
    (longestFirst_mayPrecede byRequest) ordered fun ⟨length, request⟩ => ?_
  rw [filter_kind, filter_kind, filter_length_longestFirst, List.filter_comm, sameOfRequest,
    List.filter_comm]

theorem triggersFit_of_phraseListing (lowercase : vocabulary.IsLowercase)
    (ordered : vocabulary.triggers.Pairwise Trigger.MayPrecede)
    (ownedPhrases : HaveOwnedPhrases vocabulary.triggers)
    (everyRequest : ∀ request, ∃ trigger ∈ vocabulary.triggers, trigger.request = request)
    (allRequests : ∀ request, request ∈ requests) {definition : List (Scalar × Document)}
    (found : Document.find? "triggers".toList definition =
      some (.mapping (vocabulary.phraseListing requests))) :
    TriggersFit (.mapping definition) vocabulary.triggers := by
  have isPart := Document.part_eq_of_find? found
  have isListed := triggersOf_phraseListing lowercase
    (fun request (_ : request ∈ RequestWord.all) => allRequests request)
  constructor
  · rw [Document.HasPart, isPart]
    exact found
  · rw [isPart]
    intro entry member
    obtain ⟨request, _, rfl⟩ := List.mem_map.mp member
    exact isRequestName_name request
  · intro request none
    rw [isPart, listedPhrases_phraseListing lowercase (allRequests request)] at none
    obtain ⟨⟨phrase, _⟩, member, rfl⟩ := everyRequest request
    have isPhrase := mem_phrasesFor_iff.mpr member
    rw [Except.ok.inj none] at isPhrase
    cases isPhrase
  · refine ⟨_, by rw [listedTriggers, isPart]; exact isListed, ?_, ?_⟩
    · refine ownedPhrases.of_subset fun trigger member => ?_
      obtain ⟨_, _, ofRequest⟩ := List.mem_flatMap.mp member
      exact List.mem_of_mem_filter ofRequest
    · refine (longestFirst_byRequest ordered (triggersOf_byRequest isListed (by decide))
        fun request => ?_).symm
      obtain ⟨phrases, arePhrases, filtered⟩ :=
        filter_request_triggersOf isListed (by decide) (mem_all_requests request)
      rw [listedPhrases_phraseListing lowercase (allRequests request)] at arePhrases
      rw [filtered, ← Except.ok.inj arePhrases, map_phrasesFor]

end

/-! ### Tables of words -/

section

variable {α : Type} [DecidableEq α] {valueOf : Scalar → Except Fault α} {key : α → Scalar}
  {table : List (Text × α)}

/-- The entries of a table, taken together by value. -/
def byValue (values : List α) (table : List (Text × α)) : List (Text × α) :=
  values.flatMap fun value => table.filter fun entry => entry.2 = value

theorem wordsOf_listing (keyed : ∀ value, valueOf (key value) = .ok value)
    (kept : ∀ entry ∈ table, entryOf (.text entry.1) = .ok entry.1) (values : List α) :
    wordsOf valueOf (listing key values table) = .ok (byValue values table) := by
  refine map_eq_ok_iff.mpr ⟨_, mapM_map_eq_ok fun value _ => ?_, List.flatMap_def.symm⟩
  have words : readMembers entryOf
      (.list ((table.filter fun entry => entry.2 = value).map fun entry => .text entry.1)) =
        .ok ((table.filter fun entry => entry.2 = value).map Prod.fst) :=
    bind_eq_ok_iff.mpr ⟨_, rfl, mapM_map_eq_ok fun entry member =>
      kept entry (List.mem_of_mem_filter member)⟩
  refine bind_eq_ok_iff.mpr ⟨value, keyed value, map_eq_ok_iff.mpr ⟨_, words, ?_⟩⟩
  rw [List.map_map]
  refine (List.map_congr_left fun entry member => ?_).trans (List.map_id _)
  exact Prod.ext rfl (of_decide_eq_true (List.mem_filter.mp member).2).symm

variable {values : List α} (wordsOnce : (table.map Prod.fst).Nodup) (valuesOnce : values.Nodup)
  (allValues : ∀ entry ∈ table, entry.2 ∈ values)

include wordsOnce valuesOnce allValues

/-- Taking the entries together by value only changes their order. -/
theorem byValue_perm : (byValue values table).Perm table := by
  have entriesOnce := List.Nodup.of_map Prod.fst wordsOnce
  have once : (byValue values table).Nodup := by
    refine List.nodup_flatMap.mpr ⟨fun _ _ => entriesOnce.filter _, ?_⟩
    refine valuesOnce.imp fun {first second} apart entry isFirst isSecond => apart ?_
    have firstValue := of_decide_eq_true (List.mem_filter.mp isFirst).2
    have secondValue := of_decide_eq_true (List.mem_filter.mp isSecond).2
    exact firstValue.symm.trans secondValue
  refine (List.perm_ext_iff_of_nodup once entriesOnce).mpr fun entry => ?_
  rw [byValue, List.mem_flatMap]
  constructor
  · rintro ⟨_, _, member⟩
    exact List.mem_of_mem_filter member
  · exact fun member =>
      ⟨entry.2, allValues entry member, List.mem_filter.mpr ⟨member, decide_eq_true rfl⟩⟩

theorem ofEntries_byValue : Table.ofEntries (· == ·) (byValue values table) = byValue values table :=
  Table.ofEntries_of_nodup
    (((byValue_perm wordsOnce valuesOnce allValues).map Prod.fst).nodup_iff.mpr wordsOnce)

end

/-! ### Definitions of vocabularies -/

/-- The order in which a definition goes through requests, digits and contact categories. -/
structure ListingOrder where
  requests : List RequestWord
  digits : List Digit
  categories : List ContactCategory

/-- Whether an order goes through all that a vocabulary has words or phrases for, through
digits and categories once. Categories without words may be left out. -/
structure ListingOrder.Covers (order : ListingOrder) (vocabulary : Vocabulary) : Prop where
  requests : ∀ request, request ∈ order.requests
  digits : ∀ digit, digit ∈ order.digits
  digitsOnce : order.digits.Nodup
  categories : ∀ entry ∈ vocabulary.categories, entry.2 ∈ order.categories
  categoriesOnce : order.categories.Nodup

/-- The definition that lists what a vocabulary holds, in some order. -/
def definitionIn (order : ListingOrder) (vocabulary : Vocabulary) : Document :=
  .mapping
    [(.text "universal_alias".toList, .text vocabulary.universalAlias),
     (.text "triggers".toList, .mapping (vocabulary.phraseListing order.requests)),
     (.text "digits".toList,
      .mapping (listing (fun digit => .integer digit.val) order.digits vocabulary.digits)),
     (.text "contact_categories".toList,
      .mapping (listing (fun category => .text category.name) order.categories
        vocabulary.categories))]

/-- Whether two vocabularies are the same: one alias, the same triggers in the same order, and
tables in which the same is found under every word. -/
structure IsSameAs (first second : Vocabulary) : Prop where
  universalAlias : first.universalAlias = second.universalAlias
  triggers : first.triggers = second.triggers
  digits : first.digits.Perm second.digits ∧ ∀ word, first.digit? word = second.digit? word
  categories : first.categories.Perm second.categories ∧
    ∀ word, first.category? word = second.category? word

/-- What the vocabularies of definitions have in common. -/
structure IsInOrder (vocabulary : Vocabulary) : Prop where
  lowercase : vocabulary.IsLowercase
  ordered : vocabulary.triggers.Pairwise Trigger.MayPrecede
  ownedPhrases : HaveOwnedPhrases vocabulary.triggers
  everyRequest : ∀ request, ∃ trigger ∈ vocabulary.triggers, trigger.request = request
  digitWordsOnce : (vocabulary.digits.map Prod.fst).Nodup
  everyDigit : ∀ digit, ∃ word, vocabulary.digit? word = some digit
  categoryWordsOnce : (vocabulary.categories.map Prod.fst).Nodup

theorem ofDocument_isInOrder {definition : Document} {vocabulary : Vocabulary}
    (accepted : ofDocument definition = .ok vocabulary) : vocabulary.IsInOrder := by
  obtain ⟨_, _, triggers, digits, categories⟩ := ofDocument_eq_ok_iff.mp accepted
  exact ⟨ofDocument_isLowercase accepted, triggers.reflect.ordered, triggers.reflect.ownedPhrases,
    triggers.reflect.everyRequest, digits.reflect.wordsOnce, digits.reflect.everyDigit,
    categories.reflect.wordsOnce⟩

namespace IsInOrder

variable {vocabulary : Vocabulary} (inOrder : vocabulary.IsInOrder) {order : ListingOrder}
  (covers : order.Covers vocabulary)

include inOrder covers

theorem digitsFit : DigitsFit (vocabulary.definitionIn order)
    (byValue order.digits vocabulary.digits) := by
  have allDigits : ∀ entry ∈ vocabulary.digits, entry.2 ∈ order.digits :=
    fun entry _ => covers.digits entry.2
  have keyed (digit : Digit) : digitKey (.integer digit.val) = .ok digit :=
    digitKey_eq_ok_iff.mpr rfl
  refine ⟨rfl, ⟨_, wordsOf_listing keyed inOrder.lowercase.digits order.digits, ?_⟩,
    fun digit => ?_⟩
  · exact (ofEntries_byValue inOrder.digitWordsOnce covers.digitsOnce allDigits).symm
  · obtain ⟨word, isWord⟩ := inOrder.everyDigit digit
    have reordered := byValue_perm inOrder.digitWordsOnce covers.digitsOnce allDigits
    exact ⟨word, (Table.lookup_eq_of_perm reordered inOrder.digitWordsOnce word).trans isWord⟩

theorem categoriesFit : CategoriesFit (vocabulary.definitionIn order)
    (byValue order.categories vocabulary.categories) := by
  have keyed (category : ContactCategory) : categoryKey (.text category.name) = .ok category :=
    categoryKey_eq_ok_iff.mpr rfl
  refine ⟨.inl rfl, _, wordsOf_listing keyed inOrder.lowercase.categories order.categories, ?_⟩
  exact (ofEntries_byValue inOrder.categoryWordsOnce covers.categoriesOnce covers.categories).symm

/-- The definition of a vocabulary in order is accepted, and gives the vocabulary with the
words of its tables taken together by value. -/
theorem ofDocument_definitionIn : ofDocument (vocabulary.definitionIn order) =
    .ok { vocabulary with
      digits := byValue order.digits vocabulary.digits
      categories := byValue order.categories vocabulary.categories } := by
  have isAlias : phraseOf (.text vocabulary.universalAlias) = .ok [vocabulary.universalAlias] := by
    have isPhrase := inOrder.lowercase.universalAlias.phraseOf_sentence
    rwa [sentence_singleton] at isPhrase
  refine ofDocument_eq_ok_iff.mpr ⟨rfl, isAlias, ?_, inOrder.digitsFit covers,
    inOrder.categoriesFit covers⟩
  exact triggersFit_of_phraseListing inOrder.lowercase inOrder.ordered inOrder.ownedPhrases
    inOrder.everyRequest covers.requests rfl

end IsInOrder

/-- Every accepted vocabulary, written down as a definition in whatever order, is accepted
again and comes out the same. -/
theorem ofDocument_rebuilds {definition : Document} {vocabulary : Vocabulary}
    (accepted : ofDocument definition = .ok vocabulary) {order : ListingOrder}
    (covers : order.Covers vocabulary) :
    ∃ rebuilt, ofDocument (vocabulary.definitionIn order) = .ok rebuilt ∧
      rebuilt.IsSameAs vocabulary := by
  have inOrder := ofDocument_isInOrder accepted
  have digitsPerm := byValue_perm inOrder.digitWordsOnce covers.digitsOnce
    fun entry _ => covers.digits entry.2
  have categoriesPerm := byValue_perm inOrder.categoryWordsOnce covers.categoriesOnce
    covers.categories
  refine ⟨_, inOrder.ofDocument_definitionIn covers, rfl, rfl, ⟨digitsPerm, ?_⟩,
    categoriesPerm, ?_⟩
  · exact Table.lookup_eq_of_perm digitsPerm inOrder.digitWordsOnce
  · exact Table.lookup_eq_of_perm categoriesPerm inOrder.categoryWordsOnce

/-- A vocabulary whose word "one" is for 9 and stands among the words for 1, written down
backwards and without the category that has no words. -/
theorem ofDocument_rebuilds_oneAsNine :
    let order : ListingOrder :=
      ⟨RequestWord.all.reverse, (List.finRange 10).reverse, [.helicopters, .fighters, .airplanes]⟩
    ofDocument oneListedTwice = .ok oneAsNine ∧ order.Covers oneAsNine ∧
      ∃ rebuilt, ofDocument (oneAsNine.definitionIn order) = .ok rebuilt ∧
        rebuilt.IsSameAs oneAsNine := by
  have covers : ListingOrder.Covers ⟨RequestWord.all.reverse, (List.finRange 10).reverse,
      [.helicopters, .fighters, .airplanes]⟩ oneAsNine := by
    constructor
    · exact fun request => List.mem_reverse.mpr (mem_all_requests request)
    · exact fun digit => List.mem_reverse.mpr (List.mem_finRange digit)
    · decide
    · decide
    · decide
  exact ⟨ofDocument_oneListedTwice, covers, ofDocument_rebuilds ofDocument_oneListedTwice covers⟩

end Vocabulary

end RadioCall
