/-
This file speaks of mappings whose keys are texts, each of which stands once. Texts are one key
only if they are the same text, so such a mapping is a plain table. Putting a value under a text
keeps it one, and it is what its entries make, put in one by one.
-/

import RadioCall.Document.Basic
import RadioCall.Proofs.Document.Table

namespace RadioCall

/-! ### Keys -/

/-- Whether the keys of entries are texts. -/
def HaveTextKeys (entries : List (Scalar × Document)) : Prop :=
  ∀ entry ∈ entries, ∃ name, entry.1 = .text name

/-- Whether the keys of entries are texts, each of which stands once. -/
structure AreFields (entries : List (Scalar × Document)) : Prop where
  haveTextKeys : HaveTextKeys entries
  nodup : (entries.map Prod.fst).Nodup

theorem Scalar.isSameKey_text (first second : Text) :
    isSameKey (text first) (text second) = (text first == text second) := by
  rw [Bool.eq_iff_iff, beq_iff_eq, text.injEq]
  exact beq_iff_eq

namespace Table

variable {table entries : List (Scalar × Document)}

/-- Under texts a value is put as under any other names. -/
theorem put_isSameKey (areTexts : HaveTextKeys table) (key : Text) (value : Document) :
    put Scalar.isSameKey table (.text key) value = put (· == ·) table (.text key) value := by
  induction table with
  | nil => rfl
  | cons entry rest ih =>
    obtain ⟨⟨name, isText⟩, restTexts⟩ := List.forall_mem_cons.mp areTexts
    obtain ⟨present, old⟩ := entry
    obtain rfl : present = .text name := isText
    rw [put, put, Scalar.isSameKey_text, ih restTexts]

theorem haveTextKeys_put (areTexts : HaveTextKeys table) (key : Text) (value : Document) :
    HaveTextKeys (put (· == ·) table (.text key) value) := by
  intro entry member
  rcases mem_keys_put (List.mem_map_of_mem member) with isKey | isPresent
  · exact ⟨key, isKey⟩
  · obtain ⟨present, isMember, same⟩ := List.mem_map.mp isPresent
    rw [← same]
    exact areTexts present isMember

theorem ofEntries_isSameKey (areTexts : HaveTextKeys entries) :
    ofEntries Scalar.isSameKey entries = ofEntries (· == ·) entries ∧
      HaveTextKeys (ofEntries (· == ·) entries) := by
  induction entries using List.reverseRecOn with
  | nil => exact ⟨rfl, nofun⟩
  | append_singleton entries entry ih =>
    obtain ⟨frontTexts, lastText⟩ := List.forall_mem_append.mp areTexts
    obtain ⟨name, isText⟩ := lastText entry List.mem_cons_self
    obtain ⟨same, tableTexts⟩ := ih frontTexts
    rw [ofEntries_append_singleton, isText]
    refine ⟨?_, haveTextKeys_put tableTexts name entry.2⟩
    rw [ofEntries, List.foldl_append, List.foldl_cons, List.foldl_nil, ← ofEntries, same, isText,
      put_isSameKey tableTexts]

end Table

/-! ### Mappings -/

namespace AreFields

variable {entries : List (Scalar × Document)}

theorem nil : AreFields [] :=
  ⟨fun _ member => absurd member List.not_mem_nil, List.nodup_nil⟩

theorem put (areFields : AreFields entries) (key : Text) (value : Document) :
    AreFields (Table.put Scalar.isSameKey entries (.text key) value) := by
  rw [Table.put_isSameKey areFields.haveTextKeys]
  exact ⟨Table.haveTextKeys_put areFields.haveTextKeys key value,
    Table.nodup_keys_put areFields.nodup _ value⟩

/-- Whatever entries with texts as keys are put in, each text stands once. -/
theorem ofEntries (areTexts : HaveTextKeys entries) :
    AreFields (Table.ofEntries Scalar.isSameKey entries) := by
  obtain ⟨same, tableTexts⟩ := Table.ofEntries_isSameKey areTexts
  rw [same]
  exact ⟨tableTexts, Table.nodup_keys_ofEntries entries⟩

/-- Entries in which each text stands once make themselves as a mapping. -/
theorem ofEntries_eq (areFields : AreFields entries) :
    Document.ofEntries entries = .mapping entries := by
  rw [Document.ofEntries, (Table.ofEntries_isSameKey areFields.haveTextKeys).1,
    Table.ofEntries_of_nodup areFields.nodup]

end AreFields

/-- In a mapping with texts as keys, a value is found as in a table. -/
theorem Document.find?_eq_lookup {entries : List (Scalar × Document)}
    (areTexts : HaveTextKeys entries) (key : Text) :
    find? key entries = entries.lookup (.text key) := by
  induction entries with
  | nil => rfl
  | cons entry rest ih =>
    obtain ⟨⟨name, isText⟩, restTexts⟩ := List.forall_mem_cons.mp areTexts
    obtain ⟨present, value⟩ := entry
    obtain rfl : present = .text name := isText
    rw [find?, Scalar.isSameKey_text, List.lookup_cons, ih restTexts, Bool.beq_comm]
    cases Scalar.text key == .text name <;> rfl

end RadioCall
