/-
This file says when a definition is neither accepted nor reported as malformed. Reading it
then breaks off with another fault, of which there are four: a scalar without parts stands where
something is to be gone through, or unknown names of different kinds are to be sorted; an
infinity is a key of a digit; a number with too many digits is to be shown; or documents within
one another at too many levels are. Parts are read in order, so what counts is whether all before
such a place is in order.
-/

import RadioCall.CommandLine.Program
import RadioCall.Proofs.Vocabulary.Acceptance

namespace RadioCall

/-! ### Faults that are no report -/

/-- Whether a fault reports what is wrong with a definition. -/
def Fault.IsReport (fault : Fault) : Prop :=
  ∃ cause, fault = .definition cause

/-- Whether a computation ends with this fault, and not with a report. -/
def EndsUnreported {α : Type} (result : Except Fault α) (fault : Fault) : Prop :=
  result = .error fault ∧ ¬fault.IsReport

section

variable {α β : Type} {fault : Fault}

theorem not_endsUnreported_ok (value : α) : ¬EndsUnreported (.ok value) fault := by
  rintro ⟨impossible, _⟩
  cases impossible

theorem not_endsUnreported_reject (cause : DefinitionFault) :
    ¬EndsUnreported (Vocabulary.reject cause : Except Fault α) fault := by
  rintro ⟨fails, noReport⟩
  exact noReport ⟨cause, (Except.error.inj fails).symm⟩

theorem endsUnreported_bind_iff {first : Except Fault α} {next : α → Except Fault β} :
    EndsUnreported (first >>= next) fault ↔
      EndsUnreported first fault ∨
        ∃ value, first = .ok value ∧ EndsUnreported (next value) fault := by
  simp only [EndsUnreported, bind_eq_error_iff]
  constructor
  · rintro ⟨fails | ⟨value, isValue, fails⟩, noReport⟩
    · exact .inl ⟨fails, noReport⟩
    · exact .inr ⟨value, isValue, fails, noReport⟩
  · rintro (⟨fails, noReport⟩ | ⟨value, isValue, fails, noReport⟩)
    · exact ⟨.inl fails, noReport⟩
    · exact ⟨.inr ⟨value, isValue, fails⟩, noReport⟩

theorem endsUnreported_map_iff {change : α → β} {first : Except Fault α} :
    EndsUnreported (change <$> first) fault ↔ EndsUnreported first fault := by
  rw [EndsUnreported, EndsUnreported, map_eq_error_iff]

theorem endsUnreported_foldlM_iff {step : β → α → Except Fault β} {items : List α} {start : β} :
    EndsUnreported (items.foldlM step start) fault ↔
      ∃ before item after state, items = before ++ item :: after ∧
        before.foldlM step start = .ok state ∧ EndsUnreported (step state item) fault := by
  rw [EndsUnreported, foldlM_eq_error_iff]
  constructor
  · rintro ⟨⟨before, item, after, state, split, folded, fails⟩, noReport⟩
    exact ⟨before, item, after, state, split, folded, fails, noReport⟩
  · rintro ⟨before, item, after, state, split, folded, fails, noReport⟩
    exact ⟨⟨before, item, after, state, split, folded, fails⟩, noReport⟩

/-- A computation whose faults are no reports ends with one of these whenever it faults. -/
theorem endsUnreported_iff_of_forall {result : Except Fault α} {fails : Fault → Prop}
    (noReport : ∀ fault, fails fault → ¬fault.IsReport)
    (failsIff : ∀ fault, result = .error fault ↔ fails fault) :
    EndsUnreported result fault ↔ fails fault := by
  rw [EndsUnreported, failsIff fault]
  exact and_iff_left_of_imp (noReport fault)

/-- A computation with one fault that is no report ends with that one whenever it faults. -/
theorem endsUnreported_iff_of_only {result : Except Fault α} {fails : Prop} {only : Fault}
    (noReport : ¬only.IsReport)
    (failsIff : ∀ fault, result = .error fault ↔ fails ∧ fault = only) :
    EndsUnreported result fault ↔ fails ∧ fault = only := by
  refine endsUnreported_iff_of_forall (fun fault failed => ?_) failsIff
  rw [failed.2]
  exact noReport

theorem not_isReport_of_ne (other : ∀ cause, fault ≠ .definition cause) : ¬fault.IsReport :=
  not_exists.mpr other

theorem not_isReport_of_showBreaksOff {levels : Nat} {document : Document}
    (breaks : document.ShowBreaksOff levels fault) : ¬fault.IsReport := by
  rcases breaks.fault_cases with rfl | rfl
  · exact not_isReport_of_ne nofun
  · exact not_isReport_of_ne nofun

end

namespace Vocabulary

variable {fault : Fault}

/-! ### Phrases and words -/

theorem phraseOf_eq_error_iff {document : Document} :
    phraseOf document = .error fault ↔ document.ShowBreaksOff nestingLimit fault := by
  rw [phraseOf, map_eq_error_iff, Document.spoken_eq_error_iff]

theorem entryOf_eq_error_iff {document : Document} :
    entryOf document = .error fault ↔ document.ShowBreaksOff nestingLimit fault := by
  rw [entryOf, map_eq_error_iff, phraseOf_eq_error_iff]

theorem exists_entryOf_eq_ok_iff {document : Document} :
    (∃ entry, entryOf document = .ok entry) ↔ document.CanBeShown nestingLimit := by
  rw [← Document.exists_spoken_eq_ok_iff]
  exact exists_eq_ok_iff_of_error_iff fun _ =>
    entryOf_eq_error_iff.trans Document.spoken_eq_error_iff.symm

theorem endsUnreported_phraseOf_iff {document : Document} :
    EndsUnreported (phraseOf document) fault ↔ document.ShowBreaksOff nestingLimit fault :=
  endsUnreported_iff_of_forall (fun _ => not_isReport_of_showBreaksOff)
    fun _ => phraseOf_eq_error_iff

theorem endsUnreported_shown_iff {document : Document} :
    EndsUnreported document.shown fault ↔ document.ShowBreaksOff nestingLimit fault :=
  endsUnreported_iff_of_forall (fun _ => not_isReport_of_showBreaksOff)
    fun _ => Document.shown_eq_error_iff

/-- A list of scalars cannot be shown exactly if one of them has too many digits. -/
theorem endsUnreported_shown_scalars_iff {values : List Scalar} :
    EndsUnreported (Document.list (values.map Document.scalar)).shown fault ↔
      (∃ value ∈ values, value.IsTooLong) ∧ fault = .numberTooLong :=
  endsUnreported_shown_iff.trans Document.showBreaksOff_scalars_iff

theorem endsUnreported_members_iff {document : Document} :
    EndsUnreported document.members fault ↔ document.IsUnlistable ∧ fault = .wrongKind :=
  endsUnreported_iff_of_only (not_isReport_of_ne nofun) fun _ => Document.members_eq_error_iff

/-- The universal alias breaks off exactly if it cannot be shown. -/
theorem endsUnreported_readAlias_iff {definition : List (Scalar × Document)} :
    EndsUnreported (readAlias definition) fault ↔
      (aliasOf (.mapping definition)).ShowBreaksOff nestingLimit fault := by
  rw [← endsUnreported_phraseOf_iff]
  refine endsUnreported_bind_iff.trans (or_iff_left ?_)
  rintro ⟨phrase, _, breaks⟩
  split at breaks
  · exact not_endsUnreported_ok _ breaks
  · exact not_endsUnreported_reject _ breaks

/-! ### Names of requests -/

/-- The keys that name no request. -/
def unknownNames (listing : List (Scalar × Document)) : List Scalar :=
  (listing.map Prod.fst).filter fun key => !isRequestName key

/-- Whether keys can be put in order: at most one, or all of one kind. -/
def AreSortable (keys : List Scalar) : Prop :=
  keys.length ≤ 1 ∨ ∃ kind, ∀ key ∈ keys, keyKind? key = some kind

/-- How unknown names break off: they have no order, or one has too many digits. -/
inductive NamesBreakOff (unknown : List Scalar) : Fault → Prop
  | mixed (unordered : ¬AreSortable unknown) : NamesBreakOff unknown .wrongKind
  | tooLong {key : Scalar} (ordered : AreSortable unknown) (member : key ∈ unknown)
      (long : key.IsTooLong) : NamesBreakOff unknown .numberTooLong

theorem haveOneKind_cons_iff {first : Scalar} {rest : List Scalar} :
    haveOneKind (first :: rest) ↔ ∃ kind, ∀ key ∈ first :: rest, keyKind? key = some kind := by
  rw [haveOneKind, List.head?_cons, Option.bind_some]
  constructor
  · intro oneKind
    split at oneKind
    · next kind _ =>
      exact ⟨kind, fun key member => of_decide_eq_true (List.all_eq_true.mp oneKind key member)⟩
    · cases oneKind
  · rintro ⟨kind, areKind⟩
    rw [areKind first List.mem_cons_self]
    exact List.all_eq_true.mpr fun key member => decide_eq_true (areKind key member)

theorem areSortable_iff {keys : List Scalar} :
    AreSortable keys ↔ (decide (keys.length ≤ 1) || haveOneKind keys) = true := by
  rw [AreSortable, Bool.or_eq_true, decide_eq_true_iff]
  cases keys with
  | nil => simp
  | cons first rest => rw [haveOneKind_cons_iff]

/-- Reporting unknown names breaks off where they cannot be sorted or shown. -/
theorem endsUnreported_unknown_iff {unknown : List Scalar} :
    EndsUnreported (do
        let ordered ← sortKeys unknown
        let shown ← (Document.list (ordered.map Document.scalar)).shown
        (reject (.unknownRequestWords shown) : Except Fault Unit)) fault ↔
      NamesBreakOff unknown fault := by
  rw [endsUnreported_bind_iff]
  by_cases ordered : AreSortable unknown
  · have isSorted : sortKeys unknown = .ok (unknown.mergeSort isInOrder) :=
      if_pos (areSortable_iff.mp ordered)
    rw [isSorted]
    constructor
    · rintro (breaks | ⟨_, same, breaks⟩)
      · exact absurd breaks (not_endsUnreported_ok _)
      · obtain rfl := Except.ok.inj same
        rcases endsUnreported_bind_iff.mp breaks with breaks | ⟨_, _, breaks⟩
        · obtain ⟨⟨key, member, long⟩, rfl⟩ := endsUnreported_shown_scalars_iff.mp breaks
          exact .tooLong ordered (List.mem_mergeSort.mp member) long
        · exact absurd breaks (not_endsUnreported_reject _)
    · intro breaks
      cases breaks with
      | mixed unordered => exact absurd ordered unordered
      | tooLong _ member long =>
        refine .inr ⟨_, rfl, endsUnreported_bind_iff.mpr (.inl ?_)⟩
        exact endsUnreported_shown_scalars_iff.mpr ⟨⟨_, List.mem_mergeSort.mpr member, long⟩, rfl⟩
  · have fails : sortKeys unknown = .error .wrongKind := if_neg (mt areSortable_iff.mpr ordered)
    rw [fails]
    constructor
    · rintro (⟨isFault, _⟩ | ⟨_, impossible, _⟩)
      · obtain rfl := Except.error.inj isFault
        exact .mixed ordered
      · cases impossible
    · intro breaks
      cases breaks with
      | mixed _ => exact .inl ⟨rfl, not_isReport_of_ne nofun⟩
      | tooLong sortable _ _ => exact absurd sortable ordered

theorem endsUnreported_checkRequestNames_iff {listing : List (Scalar × Document)} :
    EndsUnreported (checkRequestNames listing) fault ↔
      NamesBreakOff (unknownNames listing) fault := by
  rw [checkRequestNames, ← unknownNames]
  cases unknownNames listing with
  | nil =>
    refine iff_of_false (not_endsUnreported_ok _) fun breaks => ?_
    cases breaks with
    | mixed unordered => exact unordered (.inl (Nat.zero_le 1))
    | tooLong _ member _ => cases member
  | cons first rest => exact endsUnreported_unknown_iff

/-! ### Phrases of requests -/

/-- What the phrases of some requests must be for those of another one to be read. -/
structure RequestsFit (listing : List (Scalar × Document)) (requests : List RequestWord)
    (triggers : List Trigger) : Prop where
  listed : triggersOf listing requests = .ok triggers
  requested : ∀ request ∈ requests, listedPhrases listing request ≠ .ok []
  ownedPhrases : HaveOwnedPhrases triggers

/-- How the phrases of a request break off after some triggers: they cannot be gone through, or
after some that fit one cannot be shown. -/
inductive PhrasesBreakOff (request : RequestWord) (triggers : List Trigger)
    (spellings : Document) : Fault → Prop
  | unlistable (unlistable : spellings.IsUnlistable) :
    PhrasesBreakOff request triggers spellings .wrongKind
  | phrase {before after : List Document} {spelling : Document} {phrases : List (List Text)}
      {fault : Fault} (members : spellings.members = .ok (before ++ spelling :: after))
      (read : before.mapM phraseOf = .ok phrases)
      (ownedPhrases : HaveOwnedPhrases (triggers ++ phrases.map fun phrase => ⟨phrase, request⟩))
      (breaks : spelling.ShowBreaksOff nestingLimit fault) :
    PhrasesBreakOff request triggers spellings fault

/-- How the triggers of a definition break off: at the names of the requests, or at the phrases
of a request after those of the requests before it. -/
inductive TriggersBreakOff (listing : List (Scalar × Document)) : Fault → Prop
  | names {fault : Fault} (names : NamesBreakOff (unknownNames listing) fault) :
    TriggersBreakOff listing fault
  | phrases {before after : List RequestWord} {request : RequestWord} {triggers : List Trigger}
      {fault : Fault} (named : ∀ entry ∈ listing, isRequestName entry.1)
      (split : RequestWord.all = before ++ request :: after)
      (fit : RequestsFit listing before triggers)
      (phrases : PhrasesBreakOff request triggers
        ((Document.find? request.name listing).getD .null) fault) :
    TriggersBreakOff listing fault

theorem foldlM_addRequest_eq_ok_iff_fit {listing : List (Scalar × Document)}
    {requests : List RequestWord} {triggers : List Trigger} :
    requests.foldlM (addRequest listing) [] = .ok triggers ↔
      RequestsFit listing requests triggers := by
  rw [foldlM_addRequest_eq_ok_iff haveOwnedPhrases_nil]
  constructor
  · rintro ⟨listed, isListed, requested, rfl, ownedPhrases⟩
    exact ⟨isListed, requested, ownedPhrases⟩
  · rintro ⟨isListed, requested, ownedPhrases⟩
    exact ⟨triggers, isListed, requested, rfl, ownedPhrases⟩

theorem endsUnreported_addPhrase_iff {request : RequestWord} {triggers : List Trigger}
    {spelling : Document} :
    EndsUnreported (addPhrase request triggers spelling) fault ↔
      spelling.ShowBreaksOff nestingLimit fault := by
  rw [← endsUnreported_phraseOf_iff]
  refine endsUnreported_bind_iff.trans (or_iff_left ?_)
  rintro ⟨phrase, _, breaks⟩
  split at breaks
  · exact not_endsUnreported_reject _ breaks
  · split at breaks
    · exact not_endsUnreported_reject _ breaks
    · exact not_endsUnreported_ok _ breaks

theorem endsUnreported_addRequest_iff {listing : List (Scalar × Document)}
    {request : RequestWord} {triggers : List Trigger} (ownedPhrases : HaveOwnedPhrases triggers) :
    EndsUnreported (addRequest listing triggers request) fault ↔
      PhrasesBreakOff request triggers
        ((Document.find? request.name listing).getD .null) fault := by
  rw [addRequest]
  split
  · next falsy =>
    refine iff_of_false (not_endsUnreported_reject _) fun breaks => ?_
    have none := Document.members_eq_nil_iff.mpr falsy
    cases breaks with
    | unlistable unlistable =>
      rw [Document.members_eq_error_iff.mpr ⟨unlistable, rfl⟩] at none
      cases none
    | phrase members _ _ _ =>
      rw [members] at none
      exact List.append_ne_nil_of_right_ne_nil _ (List.cons_ne_nil _ _) (Except.ok.inj none)
  · rw [endsUnreported_bind_iff, endsUnreported_members_iff]
    constructor
    · rintro (⟨unlistable, rfl⟩ | ⟨spellings, members, breaks⟩)
      · exact .unlistable unlistable
      · obtain ⟨before, spelling, after, added, rfl, folded, breaks⟩ :=
          endsUnreported_foldlM_iff.mp breaks
        obtain ⟨phrases, read, rfl, kept⟩ := (foldlM_addPhrase_eq_ok_iff ownedPhrases).mp folded
        exact .phrase members read kept (endsUnreported_addPhrase_iff.mp breaks)
    · intro breaks
      cases breaks with
      | unlistable unlistable => exact .inl ⟨unlistable, rfl⟩
      | phrase members read kept breaks =>
        have folded := (foldlM_addPhrase_eq_ok_iff ownedPhrases).mpr ⟨_, read, rfl, kept⟩
        exact .inr ⟨_, members, endsUnreported_foldlM_iff.mpr
          ⟨_, _, _, _, rfl, folded, endsUnreported_addPhrase_iff.mpr breaks⟩⟩

theorem endsUnreported_readTriggers_iff {definition : List (Scalar × Document)} :
    EndsUnreported (readTriggers definition) fault ↔
      (Document.mapping definition).HasPart "triggers".toList ∧
        TriggersBreakOff ((Document.mapping definition).part "triggers".toList) fault := by
  rw [readTriggers]
  split
  · next listing found =>
    obtain rfl := Document.part_eq_of_find? found
    rw [endsUnreported_bind_iff, endsUnreported_checkRequestNames_iff]
    constructor
    · rintro (names | ⟨_, named, breaks⟩)
      · exact ⟨found, .names names⟩
      · obtain ⟨before, request, after, triggers, split, folded, breaks⟩ :=
          endsUnreported_foldlM_iff.mp (endsUnreported_map_iff.mp breaks)
        have fit := foldlM_addRequest_eq_ok_iff_fit.mp folded
        exact ⟨found, .phrases (checkRequestNames_eq_ok_iff.mp named) split fit
          ((endsUnreported_addRequest_iff fit.ownedPhrases).mp breaks)⟩
    · rintro ⟨_, breaks⟩
      cases breaks with
      | names names => exact .inl names
      | phrases named split fit phrases =>
        refine .inr ⟨(), checkRequestNames_eq_ok_iff.mpr named, endsUnreported_map_iff.mpr ?_⟩
        exact endsUnreported_foldlM_iff.mpr ⟨_, _, _, _, split,
          foldlM_addRequest_eq_ok_iff_fit.mpr fit,
          (endsUnreported_addRequest_iff fit.ownedPhrases).mpr phrases⟩
  · next notMapping =>
    refine iff_of_false (not_endsUnreported_reject _) fun both => ?_
    exact notMapping _ both.1

/-! ### Sections of words -/

section

variable {α : Type} {valueOf : Scalar → Except Fault α}
  {keyBreaksOff : Scalar → Fault → Prop} {listing : List (Scalar × Document)}

/-- How what a document lists breaks off: it cannot be gone through, or an item cannot be shown
after items that can. -/
inductive MembersBreakOff (listed : Document) : Fault → Prop
  | unlistable (unlistable : listed.IsUnlistable) : MembersBreakOff listed .wrongKind
  | item {before after : List Document} {item : Document} {fault : Fault}
      (members : listed.members = .ok (before ++ item :: after))
      (shown : ∀ earlier ∈ before, earlier.CanBeShown nestingLimit)
      (breaks : item.ShowBreaksOff nestingLimit fault) : MembersBreakOff listed fault

/-- How an entry of a section breaks off: its key does, or the words that it lists. -/
inductive EntryBreaksOff (valueOf : Scalar → Except Fault α)
    (keyBreaksOff : Scalar → Fault → Prop) (entry : Scalar × Document) : Fault → Prop
  | key {fault : Fault} (key : keyBreaksOff entry.1 fault) :
    EntryBreaksOff valueOf keyBreaksOff entry fault
  | words {value : α} {fault : Fault} (isValue : valueOf entry.1 = .ok value)
      (breaks : MembersBreakOff entry.2 fault) : EntryBreaksOff valueOf keyBreaksOff entry fault

/-- Whether a section breaks off at an entry, after entries that can be read. -/
def SectionBreaksOff (valueOf : Scalar → Except Fault α) (keyBreaksOff : Scalar → Fault → Prop)
    (listing : List (Scalar × Document)) (fault : Fault) : Prop :=
  ∃ before entry after listed, listing = before ++ entry :: after ∧
    wordsOf valueOf before = .ok listed ∧ EntryBreaksOff valueOf keyBreaksOff entry fault

theorem endsUnreported_mapM_entryOf_iff {items : List Document} :
    EndsUnreported (items.mapM entryOf) fault ↔
      ∃ before item after, items = before ++ item :: after ∧
        (∀ earlier ∈ before, earlier.CanBeShown nestingLimit) ∧
          item.ShowBreaksOff nestingLimit fault := by
  have readIff (before : List Document) : (∃ entries, before.mapM entryOf = .ok entries) ↔
      ∀ earlier ∈ before, earlier.CanBeShown nestingLimit := by
    rw [exists_mapM_eq_ok_iff]
    exact forall₂_congr fun _ _ => exists_entryOf_eq_ok_iff
  rw [EndsUnreported, mapM_eq_error_iff]
  simp only [entryOf_eq_error_iff, ← readIff]
  constructor
  · rintro ⟨⟨before, item, after, entries, split, read, breaks⟩, -⟩
    exact ⟨before, item, after, split, ⟨entries, read⟩, breaks⟩
  · rintro ⟨before, item, after, split, ⟨entries, read⟩, breaks⟩
    exact ⟨⟨before, item, after, entries, split, read, breaks⟩,
      not_isReport_of_showBreaksOff breaks⟩

theorem endsUnreported_readMembers_iff {listed : Document} :
    EndsUnreported (readMembers entryOf listed) fault ↔ MembersBreakOff listed fault := by
  rw [readMembers, endsUnreported_bind_iff, endsUnreported_members_iff]
  constructor
  · rintro (⟨unlistable, rfl⟩ | ⟨items, members, breaks⟩)
    · exact .unlistable unlistable
    · obtain ⟨before, item, after, rfl, shown, breaks⟩ :=
        endsUnreported_mapM_entryOf_iff.mp breaks
      exact .item members shown breaks
  · intro breaks
    cases breaks with
    | unlistable unlistable => exact .inl ⟨unlistable, rfl⟩
    | item members shown breaks =>
      exact .inr ⟨_, members, endsUnreported_mapM_entryOf_iff.mpr
        ⟨_, _, _, rfl, shown, breaks⟩⟩

variable (keyIff : ∀ key, EndsUnreported (valueOf key) fault ↔ keyBreaksOff key fault)

include keyIff

theorem endsUnreported_wordsUnder_iff {entry : Scalar × Document} :
    EndsUnreported (wordsUnder valueOf entry) fault ↔
      EntryBreaksOff valueOf keyBreaksOff entry fault := by
  rw [wordsUnder, endsUnreported_bind_iff, keyIff]
  simp only [endsUnreported_map_iff, endsUnreported_readMembers_iff]
  constructor
  · rintro (key | ⟨value, isValue, breaks⟩)
    · exact .key key
    · exact .words isValue breaks
  · intro breaks
    cases breaks with
    | key key => exact .inl key
    | words isValue breaks => exact .inr ⟨_, isValue, breaks⟩

theorem endsUnreported_wordsOf_iff :
    EndsUnreported (wordsOf valueOf listing) fault ↔
      SectionBreaksOff valueOf keyBreaksOff listing fault := by
  simp only [SectionBreaksOff, ← endsUnreported_wordsUnder_iff keyIff]
  rw [wordsOf, endsUnreported_map_iff, EndsUnreported, mapM_eq_error_iff]
  constructor
  · rintro ⟨⟨before, entry, after, groups, split, mapped, fails⟩, noReport⟩
    exact ⟨before, entry, after, groups.flatten, split, map_eq_ok_iff.mpr ⟨groups, mapped, rfl⟩,
      fails, noReport⟩
  · rintro ⟨before, entry, after, listed, split, isListed, fails, noReport⟩
    obtain ⟨groups, mapped, _⟩ := map_eq_ok_iff.mp isListed
    exact ⟨⟨before, entry, after, groups, split, mapped, fails⟩, noReport⟩

end

/-- How the key of a digit breaks off: it is an infinity, or it is a number with too many
digits, which is out of range and cannot be written. -/
inductive DigitKeyBreaksOff : Scalar → Fault → Prop
  | infinite (isNegative : Bool) :
    DigitKeyBreaksOff (.double (.infinite isNegative)) .beyondRange
  | tooLong {key : Scalar} {value : Int} (isWhole : wholeKey? key = .ok (some value))
      (long : HasTooManyDigits value) : DigitKeyBreaksOff key .numberTooLong

/-- Whether the key of a contact category breaks off: it is a number that cannot be written. -/
def CategoryKeyBreaksOff (key : Scalar) (fault : Fault) : Prop :=
  key.IsTooLong ∧ fault = .numberTooLong

theorem endsUnreported_scalar_shown_iff {key : Scalar} :
    EndsUnreported key.shown fault ↔ key.IsTooLong ∧ fault = .numberTooLong :=
  endsUnreported_iff_of_only (not_isReport_of_ne nofun) fun _ => Scalar.shown_eq_error_iff

theorem endsUnreported_shown_digits_iff {digits : List Digit} :
    EndsUnreported (Document.list (digits.map fun digit => .integer digit.val)).shown fault ↔
      (∃ value ∈ digits.map fun digit => Scalar.integer digit.val, value.IsTooLong) ∧
        fault = .numberTooLong := by
  rw [← endsUnreported_shown_scalars_iff, List.map_map]
  rfl

theorem endsUnreported_writeInteger_iff {value : Int} :
    EndsUnreported (writeInteger value) fault ↔ HasTooManyDigits value ∧ fault = .numberTooLong :=
  endsUnreported_iff_of_only (not_isReport_of_ne nofun) fun _ => writeInteger_eq_error_iff

theorem endsUnreported_wholeKey_iff {key : Scalar} :
    EndsUnreported (wholeKey? key) fault ↔
      (∃ isNegative, key = .double (.infinite isNegative)) ∧ fault = .beyondRange := by
  refine endsUnreported_iff_of_only (not_isReport_of_ne nofun) fun fault => ?_
  cases key with
  | double value => cases value <;> simp [wholeKey?, @eq_comm _ fault]
  | _ => simp [wholeKey?]

theorem endsUnreported_digitKey_iff {key : Scalar} :
    EndsUnreported (digitKey key) fault ↔ DigitKeyBreaksOff key fault := by
  rw [digitKey, endsUnreported_bind_iff, endsUnreported_wholeKey_iff]
  constructor
  · rintro (⟨⟨isNegative, rfl⟩, rfl⟩ | ⟨whole, isWhole, breaks⟩)
    · exact .infinite isNegative
    · split at breaks
      · rcases endsUnreported_bind_iff.mp breaks with breaks | ⟨_, _, breaks⟩
        · -- Only integers can be too long, and an integer is a whole number.
          obtain ⟨long, _⟩ := endsUnreported_scalar_shown_iff.mp breaks
          cases key with
          | integer value => cases isWhole
          | _ => exact long.elim
        · exact absurd breaks (not_endsUnreported_reject _)
      · split at breaks
        · exact absurd breaks (not_endsUnreported_ok _)
        · rcases endsUnreported_bind_iff.mp breaks with breaks | ⟨_, _, breaks⟩
          · obtain ⟨long, rfl⟩ := endsUnreported_writeInteger_iff.mp breaks
            exact .tooLong isWhole long
          · exact absurd breaks (not_endsUnreported_reject _)
  · intro breaks
    cases breaks with
    | infinite isNegative => exact .inl ⟨⟨isNegative, rfl⟩, rfl⟩
    | @tooLong _ value isWhole long =>
      have outOfRange : ¬(0 ≤ value ∧ value ≤ 9) := fun inRange => by
        have := long.ten_le
        omega
      have written := endsUnreported_writeInteger_iff.mpr ⟨long, rfl⟩
      refine .inr ⟨some value, isWhole, ?_⟩
      simp only [dif_neg outOfRange]
      exact endsUnreported_bind_iff.mpr (.inl written)

theorem endsUnreported_categoryKey_iff {key : Scalar} :
    EndsUnreported (categoryKey key) fault ↔ CategoryKeyBreaksOff key fault := by
  rw [categoryKey, CategoryKeyBreaksOff]
  split
  · next named =>
    refine iff_of_false (not_endsUnreported_ok _) ?_
    rintro ⟨long, _⟩
    obtain ⟨name, isText, _⟩ := Option.bind_eq_some_iff.mp named
    rw [text_of_textOf? isText] at long
    exact long
  · rw [endsUnreported_bind_iff, endsUnreported_scalar_shown_iff]
    refine or_iff_left ?_
    rintro ⟨_, _, breaks⟩
    exact not_endsUnreported_reject _ breaks

/-- The digits break off exactly if their section does; the report of missing digits can always
be written. -/
theorem endsUnreported_readDigits_iff {definition : List (Scalar × Document)} :
    EndsUnreported (readDigits definition) fault ↔
      (Document.mapping definition).HasPart "digits".toList ∧
        SectionBreaksOff digitKey DigitKeyBreaksOff
          ((Document.mapping definition).part "digits".toList) fault := by
  rw [readDigits]
  split
  · next listing found =>
    obtain rfl := Document.part_eq_of_find? found
    rw [endsUnreported_bind_iff, foldlM_addWords, endsUnreported_map_iff,
      endsUnreported_wordsOf_iff fun _ => endsUnreported_digitKey_iff]
    refine (or_iff_left ?_).trans (and_iff_right found).symm
    rintro ⟨table, _, breaks⟩
    split at breaks
    · exact not_endsUnreported_ok _ breaks
    · rcases endsUnreported_bind_iff.mp breaks with breaks | ⟨_, _, breaks⟩
      · obtain ⟨⟨value, member, long⟩, -⟩ := endsUnreported_shown_digits_iff.mp breaks
        obtain ⟨digit, _, rfl⟩ := List.mem_map.mp member
        have := HasTooManyDigits.ten_le long
        omega
      · exact not_endsUnreported_reject _ breaks
  · next notMapping =>
    refine iff_of_false (not_endsUnreported_reject _) fun both => ?_
    exact notMapping _ both.1

theorem endsUnreported_readCategories_iff {definition : List (Scalar × Document)} :
    EndsUnreported (readCategories definition) fault ↔
      (Document.mapping definition).HasPart "contact_categories".toList ∧
        SectionBreaksOff categoryKey CategoryKeyBreaksOff
          ((Document.mapping definition).part "contact_categories".toList) fault := by
  rw [readCategories]
  split
  · next falsy =>
    refine iff_of_false (not_endsUnreported_ok _) ?_
    rintro ⟨_, before, entry, after, _, split, _⟩
    rw [Document.part, Document.entries, Document.entries_of_isFalsy falsy] at split
    exact List.append_ne_nil_of_right_ne_nil before (List.cons_ne_nil entry after) split.symm
  · split
    · next listing isMapping =>
      have found := Document.find?_eq_some_of_getD isMapping
      obtain rfl := Document.part_eq_of_find? found
      rw [foldlM_addWords, endsUnreported_map_iff,
        endsUnreported_wordsOf_iff fun _ => endsUnreported_categoryKey_iff]
      exact (and_iff_right found).symm
    · next notMapping =>
      refine iff_of_false (not_endsUnreported_reject _) fun both => ?_
      exact notMapping _ (Option.getD_eq_iff.mpr (.inl both.1))

/-! ### Definitions -/

/-- How the reading of a definition breaks off: one of its parts does, after all before it is in
order. -/
inductive BreaksOff (definition : Document) : Fault → Prop
  | universalAlias {fault : Fault}
      (breaks : (aliasOf definition).ShowBreaksOff nestingLimit fault) : BreaksOff definition fault
  | triggers {universalAlias : Text} {fault : Fault}
      (isAlias : phraseOf (aliasOf definition) = .ok [universalAlias])
      (present : definition.HasPart "triggers".toList)
      (breaks : TriggersBreakOff (definition.part "triggers".toList) fault) :
    BreaksOff definition fault
  | digits {universalAlias : Text} {triggers : List Trigger} {fault : Fault}
      (isAlias : phraseOf (aliasOf definition) = .ok [universalAlias])
      (triggersFit : TriggersFit definition triggers)
      (present : definition.HasPart "digits".toList)
      (breaks :
        SectionBreaksOff digitKey DigitKeyBreaksOff (definition.part "digits".toList) fault) :
    BreaksOff definition fault
  | categories {universalAlias : Text} {triggers : List Trigger} {digits : List (Text × Digit)}
      {fault : Fault} (isAlias : phraseOf (aliasOf definition) = .ok [universalAlias])
      (triggersFit : TriggersFit definition triggers) (digitsFit : DigitsFit definition digits)
      (present : definition.HasPart "contact_categories".toList)
      (breaks : SectionBreaksOff categoryKey CategoryKeyBreaksOff
        (definition.part "contact_categories".toList) fault) :
    BreaksOff definition fault

theorem endsUnreported_ofDocument_mapping_iff {definition : List (Scalar × Document)} :
    EndsUnreported (ofDocument (.mapping definition)) fault ↔
      BreaksOff (.mapping definition) fault := by
  rw [ofDocument.eq_def]
  constructor
  · intro breaks
    rcases endsUnreported_bind_iff.mp breaks with breaks | ⟨universalAlias, isAlias, breaks⟩
    · exact .universalAlias (endsUnreported_readAlias_iff.mp breaks)
    have isAlias := readAlias_eq_ok_iff.mp isAlias
    rcases endsUnreported_bind_iff.mp breaks with breaks | ⟨triggers, areTriggers, breaks⟩
    · obtain ⟨present, breaks⟩ := endsUnreported_readTriggers_iff.mp breaks
      exact .triggers isAlias present breaks
    have triggersFit := readTriggers_eq_ok_iff.mp areTriggers
    rcases endsUnreported_bind_iff.mp breaks with breaks | ⟨digits, areDigits, breaks⟩
    · obtain ⟨present, breaks⟩ := endsUnreported_readDigits_iff.mp breaks
      exact .digits isAlias triggersFit present breaks
    have digitsFit := readDigits_eq_ok_iff.mp areDigits
    rcases endsUnreported_bind_iff.mp breaks with breaks | ⟨_, _, breaks⟩
    · obtain ⟨present, breaks⟩ := endsUnreported_readCategories_iff.mp breaks
      exact .categories isAlias triggersFit digitsFit present breaks
    · exact absurd breaks (not_endsUnreported_ok _)
  · intro breaks
    rw [endsUnreported_bind_iff]
    cases breaks with
    | universalAlias breaks => exact .inl (endsUnreported_readAlias_iff.mpr breaks)
    | triggers isAlias present breaks =>
      refine .inr ⟨_, readAlias_eq_ok_iff.mpr isAlias, endsUnreported_bind_iff.mpr (.inl ?_)⟩
      exact endsUnreported_readTriggers_iff.mpr ⟨present, breaks⟩
    | digits isAlias triggersFit present breaks =>
      refine .inr ⟨_, readAlias_eq_ok_iff.mpr isAlias, endsUnreported_bind_iff.mpr (.inr ?_)⟩
      refine ⟨_, readTriggers_eq_ok_iff.mpr triggersFit, endsUnreported_bind_iff.mpr (.inl ?_)⟩
      exact endsUnreported_readDigits_iff.mpr ⟨present, breaks⟩
    | categories isAlias triggersFit digitsFit present breaks =>
      refine .inr ⟨_, readAlias_eq_ok_iff.mpr isAlias, endsUnreported_bind_iff.mpr (.inr ?_)⟩
      refine ⟨_, readTriggers_eq_ok_iff.mpr triggersFit, endsUnreported_bind_iff.mpr (.inr ?_)⟩
      refine ⟨_, readDigits_eq_ok_iff.mpr digitsFit, endsUnreported_bind_iff.mpr (.inl ?_)⟩
      exact endsUnreported_readCategories_iff.mpr ⟨present, breaks⟩

/-- A definition without entries does not break off: it has no part. -/
theorem not_breaksOff_of_entries {definition : Document} (none : definition.entries = []) :
    ¬BreaksOff definition fault := by
  have noPart {name : Text} (present : definition.HasPart name) : False := by
    rw [Document.HasPart, none] at present
    cases present
  intro breaks
  cases breaks with
  | universalAlias breaks =>
    rw [aliasOf, none] at breaks
    exact (Document.showBreaksOff_scalar_iff.mp breaks).1
  | triggers _ present => exact noPart present
  | digits _ _ present => exact noPart present
  | categories _ _ _ present => exact noPart present

/-- Whether a fault is one of those that break off the reading of a definition. -/
def BreaksOffWith (fault : Fault) : Prop :=
  fault = .wrongKind ∨ fault = .beyondRange ∨ fault = .numberTooLong ∨ fault = .nestedTooDeep

theorem breaksOffWith_of_showBreaksOff {levels : Nat} {document : Document}
    (breaks : document.ShowBreaksOff levels fault) : BreaksOffWith fault :=
  .inr (.inr breaks.fault_cases)

/-- What may break off the reading of a definition: a value of the wrong kind, an infinity, a
number with too many digits, or documents within one another at too many levels. -/
theorem BreaksOff.fault_cases {definition : Document} (breaks : BreaksOff definition fault) :
    BreaksOffWith fault := by
  have ofSection {α : Type} {valueOf : Scalar → Except Fault α}
      {keyBreaksOff : Scalar → Fault → Prop} {listing : List (Scalar × Document)}
      (ofKey : ∀ key, keyBreaksOff key fault → BreaksOffWith fault)
      (breaks : SectionBreaksOff valueOf keyBreaksOff listing fault) : BreaksOffWith fault := by
    obtain ⟨_, entry, _, _, _, _, breaks⟩ := breaks
    cases breaks with
    | key key => exact ofKey entry.1 key
    | words _ breaks =>
      cases breaks with
      | unlistable => exact .inl rfl
      | item _ _ breaks => exact breaksOffWith_of_showBreaksOff breaks
  cases breaks with
  | universalAlias breaks => exact breaksOffWith_of_showBreaksOff breaks
  | triggers _ _ breaks =>
    cases breaks with
    | names breaks =>
      cases breaks with
      | mixed => exact .inl rfl
      | tooLong => exact .inr (.inr (.inl rfl))
    | phrases _ _ _ breaks =>
      cases breaks with
      | unlistable => exact .inl rfl
      | phrase _ _ _ breaks => exact breaksOffWith_of_showBreaksOff breaks
  | digits _ _ _ breaks =>
    refine ofSection (fun key breaks => ?_) breaks
    cases breaks with
    | infinite => exact .inr (.inl rfl)
    | tooLong => exact .inr (.inr (.inl rfl))
  | categories _ _ _ _ breaks =>
    exact ofSection (fun _ breaks => .inr (.inr (.inl breaks.2))) breaks

theorem endsUnreported_ofDocument_iff {definition : Document} :
    EndsUnreported (ofDocument definition) fault ↔ BreaksOff definition fault := by
  cases definition with
  | mapping entries => exact endsUnreported_ofDocument_mapping_iff
  | _ => exact iff_of_false (not_endsUnreported_reject _) (not_breaksOff_of_entries rfl)

/-- A definition ends in a fault that is no report exactly if the reading of it breaks off. The
program does not handle such a fault either, unless it is that of a number with too many
digits. -/
theorem ofDocument_endsUnreported_iff (definition : Document) (fault : Fault) :
    (EndsUnreported (ofDocument definition) fault ↔ BreaksOff definition fault) ∧
      (EndsUnreported (ofDocument definition) fault ∧ ¬CommandLine.isHandled fault ↔
        BreaksOff definition fault ∧ fault ≠ .numberTooLong) := by
  refine ⟨endsUnreported_ofDocument_iff, ?_⟩
  rw [endsUnreported_ofDocument_iff]
  refine and_congr_right fun breaks => ?_
  rcases breaks.fault_cases with rfl | rfl | rfl | rfl <;> decide

example : ofDocument (.mapping [(.text "universal_alias".toList, .text "anyface".toList),
    (.text "triggers".toList,
      .mapping [(.integer 1, .list []), (.text "vector".toList, .list [])])]) =
    .error .wrongKind := by decide +kernel

end Vocabulary

end RadioCall
