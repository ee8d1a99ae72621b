/-
This file says what a table holds whose entries were put in one by one. A key has the value
of the last entry with that key, so earlier entries with the key leave no trace of their
values. All entries are found again exactly if entries with one key have one value.
-/

import Mathlib.Data.List.Induction
import RadioCall.Document.Table

namespace RadioCall

variable {κ α : Type}

/-! ### Lists of entries -/

/-- Whether the last entry with a key has this value. -/
def IsLastEntry (entries : List (κ × α)) (key : κ) (value : α) : Prop :=
  ∃ before after, entries = before ++ (key, value) :: after ∧ ∀ entry ∈ after, entry.1 ≠ key

/-- Entries in which no key stands with two values. -/
def AreConsistent (entries : List (κ × α)) : Prop :=
  ∀ first ∈ entries, ∀ second ∈ entries, first.1 = second.1 → first.2 = second.2

theorem IsLastEntry.mem {entries : List (κ × α)} {key : κ} {value : α}
    (isLast : IsLastEntry entries key value) : (key, value) ∈ entries := by
  obtain ⟨before, after, rfl, _⟩ := isLast
  exact List.mem_append_right before List.mem_cons_self

/-- With a further entry the last entry of its key is that one, and that of another key is
the same as before. -/
theorem isLastEntry_append_singleton_iff {entries : List (κ × α)} {entry : κ × α} {key : κ}
    {value : α} :
    IsLastEntry (entries ++ [entry]) key value ↔
      entry = (key, value) ∨ entry.1 ≠ key ∧ IsLastEntry entries key value := by
  constructor
  · rintro ⟨before, after, split, others⟩
    rcases List.eq_nil_or_concat after with rfl | ⟨after, last, rfl⟩
    · exact .inl (List.append_inj' split rfl |>.2 |> List.cons_eq_cons.mp).1
    · rw [List.concat_eq_append, ← List.cons_append, ← List.append_assoc] at split
      obtain ⟨rfl, same⟩ := List.append_inj' split rfl
      obtain rfl := (List.cons_eq_cons.mp same).1
      rw [List.concat_eq_append] at others
      refine .inr ⟨others entry (List.mem_append_right after List.mem_cons_self), before, after, rfl,
        fun other member => others other (List.mem_append_left _ member)⟩
  · rintro (rfl | ⟨other, before, after, rfl, others⟩)
    · exact ⟨entries, [], rfl, fun _ member => by cases member⟩
    · refine ⟨before, after ++ [entry], by rw [List.append_assoc, List.cons_append], ?_⟩
      exact List.forall_mem_append.mpr ⟨others, List.forall_mem_singleton.mpr other⟩

/-- Every entry has a last one with its key. -/
theorem exists_isLastEntry_of_mem {entries : List (κ × α)} {key : κ} {value : α}
    (member : (key, value) ∈ entries) : ∃ last, IsLastEntry entries key last := by
  induction entries using List.reverseRecOn with
  | nil => cases member
  | append_singleton entries entry ih =>
    simp only [isLastEntry_append_singleton_iff]
    by_cases same : entry.1 = key
    · exact ⟨entry.2, .inl (Prod.ext same rfl)⟩
    · rcases List.mem_append.mp member with inFront | isEntry
      · obtain ⟨last, isLast⟩ := ih inFront
        exact ⟨last, .inr ⟨same, isLast⟩⟩
      · rw [← List.mem_singleton.mp isEntry] at same
        exact absurd rfl same

/-! ### Finding in lists of entries -/

section Lookup

variable [DecidableEq κ]

theorem mem_of_lookup_eq_some {entries : List (κ × α)} {key : κ} {value : α}
    (found : entries.lookup key = some value) : (key, value) ∈ entries := by
  obtain ⟨before, after, rfl, _⟩ := List.lookup_eq_some_iff.mp found
  exact List.mem_append_right before List.mem_cons_self

/-- A value is found under each key that an entry has. -/
theorem exists_lookup_eq_some_iff {entries : List (κ × α)} {key : κ} :
    (∃ value, entries.lookup key = some value) ↔ key ∈ entries.map Prod.fst := by
  rw [← Option.isSome_iff_exists, List.lookup_isSome_iff, List.mem_map]
  simp only [beq_iff_eq, @eq_comm _ key]

/-- Taking out the entries of one key does not change what is found under another. -/
theorem lookup_filter_of_ne {key other : κ} (apart : key ≠ other)
    (entries : List (κ × α)) :
    (entries.filter fun entry => entry.1 ≠ other).lookup key = entries.lookup key := by
  induction entries with
  | nil => rfl
  | cons first rest ih =>
    obtain ⟨name, value⟩ := first
    by_cases same : name = other
    · rw [List.filter_cons_of_neg (by simpa using same), ih, List.lookup_cons,
        beq_false_of_ne (same ▸ apart)]
    · rw [List.filter_cons_of_pos (by simpa using same), List.lookup_cons, List.lookup_cons,
        ih]

/-- In the first entries a key is found if its first entry is one of them. -/
theorem lookup_take (entries : List (κ × α)) (count : Nat) (key : κ) :
    (entries.take count).lookup key =
      if (entries.takeWhile fun entry => entry.1 ≠ key).length < count then entries.lookup key
      else none := by
  induction entries generalizing count with
  | nil => simp
  | cons first rest ih =>
    obtain ⟨name, value⟩ := first
    cases count with
    | zero => simp
    | succ count =>
      rw [List.take_succ_cons, List.lookup_cons, List.lookup_cons]
      by_cases same : key = name
      · simp [same]
      · rw [List.takeWhile_cons_of_pos (by simpa using Ne.symm same), List.length_cons,
          beq_false_of_ne same, ih]
        simp only [Nat.add_lt_add_iff_right]

end Lookup

/-! ### Tables -/

namespace Table

/-- What holds of the values that are put in holds of the values in the table. -/
theorem forall_mem_put {same : κ → κ → Bool} {table : Table κ α} {holds : α → Prop}
    (tableHolds : ∀ entry ∈ table, holds entry.2) (key : κ) {value : α} (valueHolds : holds value) :
    ∀ entry ∈ put same table key value, holds entry.2 := by
  induction table with
  | nil => exact List.forall_mem_singleton.mpr valueHolds
  | cons first rest ih =>
    obtain ⟨firstHolds, restHolds⟩ := List.forall_mem_cons.mp tableHolds
    rw [put]
    split
    · exact List.forall_mem_cons.mpr ⟨valueHolds, restHolds⟩
    · exact List.forall_mem_cons.mpr ⟨firstHolds, ih restHolds⟩

theorem forall_mem_ofEntries {same : κ → κ → Bool} {entries : List (κ × α)} {holds : α → Prop}
    (allHold : ∀ entry ∈ entries, holds entry.2) :
    ∀ entry ∈ ofEntries same entries, holds entry.2 := by
  induction entries using List.reverseRecOn with
  | nil => exact nofun
  | append_singleton entries entry ih =>
    obtain ⟨frontHolds, lastHolds⟩ := List.forall_mem_append.mp allHold
    rw [ofEntries, List.foldl_append, List.foldl_cons, List.foldl_nil]
    exact forall_mem_put (ih frontHolds) entry.1 (lastHolds entry List.mem_cons_self)

variable [BEq κ] [LawfulBEq κ]

/-- Where each key stands once, the entries are what is found. -/
theorem lookup_eq_some_iff_mem {table : Table κ α} (nodup : (table.map Prod.fst).Nodup) {key : κ}
    {value : α} : table.lookup key = some value ↔ (key, value) ∈ table := by
  rw [List.lookup_eq_some_iff]
  constructor
  · rintro ⟨before, after, rfl, _⟩
    exact List.mem_append_right before List.mem_cons_self
  · intro member
    obtain ⟨before, after, rfl⟩ := List.append_of_mem member
    rw [List.map_append, List.map_cons] at nodup
    refine ⟨before, after, rfl, fun entry isBefore => ?_⟩
    have other : entry.1 ≠ key := (List.nodup_append.mp nodup).2.2 entry.1
      (List.mem_map_of_mem isBefore) key List.mem_cons_self
    exact bne_iff_ne.mpr (Ne.symm other)

/-- Putting a value under a key changes what is found under this key only. -/
theorem lookup_put (table : Table κ α) (key other : κ) (value : α) :
    (put (· == ·) table key value).lookup other =
      if other == key then some value else table.lookup other := by
  induction table with
  | nil =>
    rw [put, List.lookup_cons, List.lookup_nil]
    split <;> simp_all
  | cons entry rest ih =>
    obtain ⟨present, old⟩ := entry
    rw [put]
    by_cases isKey : present = key
    · rw [if_pos (beq_iff_eq.mpr isKey), List.lookup_cons, List.lookup_cons, isKey]
      split <;> simp_all
    · rw [if_neg (beq_iff_eq.not.mpr isKey), List.lookup_cons, List.lookup_cons, ih]
      by_cases isPresent : other = present
      · subst isPresent
        simp [isKey]
      · rw [beq_false_of_ne isPresent]

omit [LawfulBEq κ] in
theorem mem_keys_put {table : Table κ α} {key other : κ} {value : α}
    (member : other ∈ (put (· == ·) table key value).map Prod.fst) :
    other = key ∨ other ∈ table.map Prod.fst := by
  induction table with
  | nil => exact .inl (List.mem_singleton.mp member)
  | cons entry rest ih =>
    obtain ⟨present, old⟩ := entry
    rw [put] at member
    split at member
    · exact .inr member
    · rcases List.mem_cons.mp member with isPresent | later
      · exact .inr (List.mem_cons.mpr (.inl isPresent))
      · exact (ih later).imp_right (List.mem_cons_of_mem present)

theorem nodup_keys_put {table : Table κ α} (nodup : (table.map Prod.fst).Nodup) (key : κ)
    (value : α) : ((put (· == ·) table key value).map Prod.fst).Nodup := by
  induction table with
  | nil => exact List.pairwise_singleton _ key
  | cons entry rest ih =>
    obtain ⟨present, old⟩ := entry
    obtain ⟨notLater, restNodup⟩ := List.nodup_cons.mp nodup
    rw [put]
    split
    · exact nodup
    · next other =>
      refine List.nodup_cons.mpr ⟨fun later => ?_, ih restNodup⟩
      rcases mem_keys_put later with isKey | inRest
      · exact other (beq_iff_eq.mpr isKey)
      · exact notLater inRest

/-- Putting a value under a key leaves the other entries, and their order. -/
theorem filter_put_ne (table : Table κ α) (key : κ) (value : α) :
    (put (· == ·) table key value).filter (fun entry => entry.1 != key) =
      table.filter fun entry => entry.1 != key := by
  induction table with
  | nil => simp [put]
  | cons entry rest ih =>
    obtain ⟨present, old⟩ := entry
    rw [put]
    split
    · next isKey => simp [beq_iff_eq.mp isKey]
    · rw [List.filter_cons, List.filter_cons, ih]

/-- Under the key to which a value is put, the value is all there is. -/
theorem filter_put_eq {table : Table κ α} (nodup : (table.map Prod.fst).Nodup) (key : κ)
    (value : α) :
    (put (· == ·) table key value).filter (fun entry => entry.1 == key) = [(key, value)] := by
  induction table with
  | nil => simp [put]
  | cons entry rest ih =>
    obtain ⟨present, old⟩ := entry
    obtain ⟨notLater, restNodup⟩ := List.nodup_cons.mp nodup
    rw [put]
    split
    · next isKey =>
      obtain rfl := beq_iff_eq.mp isKey
      have none : rest.filter (fun entry => entry.1 == present) = [] :=
        List.filter_eq_nil_iff.mpr fun entry member same =>
          notLater (List.mem_map.mpr ⟨entry, member, beq_iff_eq.mp same⟩)
      rw [List.filter_cons, if_pos isKey, none]
    · next other => rw [List.filter_cons, if_neg other, ih restNodup]

omit [LawfulBEq κ] in
theorem ofEntries_append_singleton (entries : List (κ × α)) (entry : κ × α) :
    ofEntries (· == ·) (entries ++ [entry]) =
      put (· == ·) (ofEntries (· == ·) entries) entry.1 entry.2 := by
  rw [ofEntries, ofEntries, List.foldl_append, List.foldl_cons, List.foldl_nil]

/-- What is found under a key is the value of the last entry with the key. -/
theorem lookup_ofEntries_eq_some_iff {entries : List (κ × α)} {key : κ} {value : α} :
    (ofEntries (· == ·) entries).lookup key = some value ↔ IsLastEntry entries key value := by
  induction entries using List.reverseRecOn with
  | nil =>
    constructor
    · intro impossible
      cases impossible
    · intro isLast
      cases isLast.mem
  | append_singleton entries entry ih =>
    rw [ofEntries_append_singleton, lookup_put, isLastEntry_append_singleton_iff]
    by_cases same : entry.1 = key
    · rw [if_pos (beq_iff_eq.mpr same.symm)]
      constructor
      · exact fun isValue => .inl (Prod.ext same (Option.some.inj isValue))
      · rintro (rfl | ⟨other, _⟩)
        · rfl
        · exact absurd same other
    · rw [if_neg (beq_iff_eq.not.mpr (Ne.symm same)), ih]
      constructor
      · exact fun isLast => .inr ⟨same, isLast⟩
      · rintro (rfl | ⟨_, isLast⟩)
        · exact absurd rfl same
        · exact isLast

/-- All entries are found again exactly if no key stands with two values. -/
theorem forall_lookup_ofEntries_iff {entries : List (κ × α)} :
    (∀ entry ∈ entries, (ofEntries (· == ·) entries).lookup entry.1 = some entry.2) ↔
      AreConsistent entries := by
  constructor
  · intro found first firstMember second secondMember same
    have isFirst := found first firstMember
    rw [same, found second secondMember] at isFirst
    exact (Option.some.inj isFirst).symm
  · rintro consistent ⟨key, value⟩ member
    obtain ⟨last, isLast⟩ := exists_isLastEntry_of_mem member
    rw [lookup_ofEntries_eq_some_iff.mpr isLast]
    exact congrArg some (consistent (key, last) isLast.mem (key, value) member rfl)

theorem put_of_notMem {table : Table κ α} {key : κ} (other : key ∉ table.map Prod.fst) (value : α) :
    put (· == ·) table key value = table ++ [(key, value)] := by
  induction table with
  | nil => rfl
  | cons entry rest ih =>
    obtain ⟨present, old⟩ := entry
    rw [List.map_cons, List.mem_cons, not_or] at other
    obtain ⟨notFirst, notLater⟩ := other
    rw [put, if_neg (beq_iff_eq.not.mpr (Ne.symm notFirst)), ih notLater, List.cons_append]

/-- Entries in which each key stands once make themselves as a table. -/
theorem ofEntries_of_nodup {entries : List (κ × α)} (nodup : (entries.map Prod.fst).Nodup) :
    ofEntries (· == ·) entries = entries := by
  induction entries using List.reverseRecOn with
  | nil => rfl
  | append_singleton entries entry ih =>
    rw [List.map_append, List.map_singleton] at nodup
    obtain ⟨nodup, _, apart⟩ := List.nodup_append.mp nodup
    have other : entry.1 ∉ entries.map Prod.fst := fun member =>
      apart entry.1 member entry.1 List.mem_cons_self rfl
    rw [ofEntries_append_singleton, ih nodup, put_of_notMem other]

/-- Where each key stands once, the order of the entries is of no consequence. -/
theorem lookup_eq_of_perm {first second : Table κ α} (reordered : first.Perm second)
    (nodup : (second.map Prod.fst).Nodup) (key : κ) : first.lookup key = second.lookup key := by
  have firstNodup : (first.map Prod.fst).Nodup := (reordered.map Prod.fst).nodup_iff.mpr nodup
  refine Option.ext fun value => ?_
  rw [lookup_eq_some_iff_mem firstNodup, lookup_eq_some_iff_mem nodup, reordered.mem_iff]

/-- Each key of a table that was put in one by one stands there once. -/
theorem nodup_keys_ofEntries (entries : List (κ × α)) :
    ((ofEntries (· == ·) entries).map Prod.fst).Nodup := by
  induction entries using List.reverseRecOn with
  | nil => exact List.nodup_nil
  | append_singleton entries entry ih =>
    rw [ofEntries_append_singleton]
    exact nodup_keys_put ih entry.1 entry.2

end Table

end RadioCall
