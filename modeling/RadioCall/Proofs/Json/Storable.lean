/-
This file says which documents JSON can store. Writing one that JSON has a form for fails only
for a number with too many digits, and what was written reads back if it is nested no deeper than
may be read. Whatever is read can be stored again, so reading and storing go round without loss.
-/

import RadioCall.Proofs.Document.Readable
import RadioCall.Proofs.Json.RoundTrip

namespace RadioCall

namespace Document

/-! ### Documents that can be stored -/

/-- Whether a document can be stored within so many levels and read again. -/
structure CanBeStored (levels : Nat) (document : Document) : Prop where
  isJson : document.IsJson
  isShallow : document.depth ≤ levels
  isShort : ¬document.HoldsTooLong

theorem canBeStored_scalar_iff {levels : Nat} {value : Scalar} :
    (scalar value).CanBeStored levels ↔ value.IsProper ∧ ¬value.IsTooLong := by
  constructor
  · rintro ⟨isJson, -, isShort⟩
    cases isJson with
    | scalar isProper => exact ⟨isProper, fun long => isShort (.scalar long)⟩
  · rintro ⟨isProper, isShort⟩
    refine ⟨.scalar isProper, ?_, mt holdsTooLong_scalar_iff.mp isShort⟩
    rw [depth]
    exact Nat.zero_le levels

theorem canBeStored_list_iff {levels : Nat} {items : List Document} :
    (list items).CanBeStored (levels + 1) ↔ ∀ item ∈ items, item.CanBeStored levels := by
  constructor
  · rintro ⟨isJson, isShallow, isShort⟩ item member
    rw [depth, Nat.add_le_add_iff_right, itemsDepth_le_iff] at isShallow
    cases isJson with
    | list areJson =>
      exact ⟨areJson item member, isShallow item member, fun long => isShort (.part member long)⟩
  · intro areStored
    refine ⟨.list fun item member => (areStored item member).isJson, ?_, fun long => ?_⟩
    · rw [depth, Nat.add_le_add_iff_right, itemsDepth_le_iff]
      exact fun item member => (areStored item member).isShallow
    · obtain ⟨item, member, long⟩ := holdsTooLong_list_iff.mp long
      exact (areStored item member).isShort long

theorem canBeStored_mapping_iff {levels : Nat} {entries : List (Scalar × Document)} :
    (mapping entries).CanBeStored (levels + 1) ↔
      AreFields entries ∧ ∀ entry ∈ entries, entry.2.CanBeStored levels := by
  constructor
  · rintro ⟨isJson, isShallow, isShort⟩
    rw [depth, Nat.add_le_add_iff_right, entriesDepth_le_iff] at isShallow
    cases isJson with
    | mapping areFields areJson =>
      exact ⟨areFields, fun entry member => ⟨areJson entry member, isShallow entry member,
        fun long => isShort (holdsTooLong_mapping_iff.mpr ⟨entry, member, .inr long⟩)⟩⟩
  · rintro ⟨areFields, areStored⟩
    refine ⟨.mapping areFields fun entry member => (areStored entry member).isJson, ?_,
      fun long => ?_⟩
    · rw [depth, Nat.add_le_add_iff_right, entriesDepth_le_iff]
      exact fun entry member => (areStored entry member).isShallow
    · obtain ⟨entry, member, long | long⟩ := holdsTooLong_mapping_iff.mp long
      · obtain ⟨name, isText⟩ := areFields.haveTextKeys entry member
        rw [isText] at long
        exact long
      · exact (areStored entry member).isShort long

theorem canBeStored_emptyList (levels : Nat) : (list []).CanBeStored (levels + 1) :=
  canBeStored_list_iff.mpr fun _ member => absurd member List.not_mem_nil

theorem canBeStored_emptyMapping (levels : Nat) : (mapping []).CanBeStored (levels + 1) :=
  canBeStored_mapping_iff.mpr ⟨.nil, fun _ member => absurd member List.not_mem_nil⟩

/-! ### Records of fields -/

section

variable {fields : List (Text × Document)} {levels : Nat}

theorem record_inj {others : List (Text × Document)} (same : record fields = record others) :
    fields = others := by
  refine (List.map_inj_right fun field other sameField => ?_).mp (mapping.inj same)
  obtain ⟨sameName, sameValue⟩ := Prod.mk.inj sameField
  exact Prod.ext (Scalar.text.inj sameName) sameValue

theorem isJson_text (value : Text) : (text value).IsJson :=
  .scalar trivial

theorem isJson_integer (value : Int) : (integer value).IsJson :=
  .scalar trivial

theorem areFields_of_nodup (nodup : (fields.map Prod.fst).Nodup) :
    AreFields (fields.map fun field => (.text field.1, field.2)) := by
  refine ⟨fun entry member => ?_, ?_⟩
  · obtain ⟨field, -, rfl⟩ := List.mem_map.mp member
    exact ⟨field.1, rfl⟩
  · have names : (fields.map fun field => (Scalar.text field.1, field.2)).map Prod.fst =
        (fields.map Prod.fst).map Scalar.text := by simp
    rw [names]
    exact List.Pairwise.map Scalar.text (fun _ _ apart same => apart (Scalar.text.inj same)) nodup

theorem isJson_record (nodup : (fields.map Prod.fst).Nodup)
    (areJson : ∀ field ∈ fields, field.2.IsJson) : (record fields).IsJson :=
  .mapping (areFields_of_nodup nodup) (List.forall_mem_map.mpr areJson)

theorem depth_record_le (shallow : ∀ field ∈ fields, field.2.depth ≤ levels) :
    (record fields).depth ≤ levels + 1 := by
  rw [record, depth, Nat.add_le_add_iff_right, entriesDepth_le_iff]
  exact List.forall_mem_map.mpr shallow

/-- The names of a record are texts, so only its values can be too long. -/
theorem holdsTooLong_record_iff :
    (record fields).HoldsTooLong ↔ ∃ field ∈ fields, field.2.HoldsTooLong := by
  rw [record, holdsTooLong_mapping_iff]
  constructor
  · rintro ⟨entry, member, isLong⟩
    obtain ⟨field, inFields, rfl⟩ := List.mem_map.mp member
    exact ⟨field, inFields, isLong.resolve_left id⟩
  · rintro ⟨field, inFields, isLong⟩
    exact ⟨_, List.mem_map_of_mem inFields, .inr isLong⟩

theorem canBeStored_record (nodup : (fields.map Prod.fst).Nodup)
    (areStored : ∀ field ∈ fields, field.2.CanBeStored levels) :
    (record fields).CanBeStored (levels + 1) :=
  canBeStored_mapping_iff.mpr ⟨areFields_of_nodup nodup, List.forall_mem_map.mpr areStored⟩

end

end Document

namespace Json

/-! ### Writing -/

theorem scalarText_eq_error_iff {value : Scalar} (isProper : value.IsProper) {fault : Fault} :
    scalarText value = .error fault ↔ value.IsTooLong ∧ fault = .numberTooLong := by
  cases value with
  | integer value => exact writeInteger_eq_error_iff
  | boolean value => cases value <;> simp [scalarText, Scalar.IsTooLong]
  | bytes _ => exact isProper.elim
  | date _ => exact isProper.elim
  | moment _ => exact isProper.elim
  | _ => simp [scalarText, Scalar.IsTooLong]

theorem keyLiteral_ne_error {key : Scalar} {name : Text} (isText : key = .text name)
    (fault : Fault) : keyLiteral key ≠ .error fault := by
  subst isText
  nofun

mutual

/-- A document cannot be written exactly if it holds a number with too many digits. -/
theorem write_eq_error_iff (level : Level) (document : Document) (isJson : document.IsJson)
    {fault : Fault} :
    write level document = .error fault ↔ document.HoldsTooLong ∧ fault = .numberTooLong := by
  cases document with
  | scalar value =>
    cases isJson with
    | scalar isProper =>
      rw [write, Document.holdsTooLong_scalar_iff, ← scalarText_eq_error_iff isProper]
      cases value with
      | text value => simp [scalarLiteral, scalarText]
      | _ => rfl
  | list items =>
    cases isJson with
    | list areJson =>
      rw [Document.holdsTooLong_list_iff, ← writeItems_eq_error_iff level.deeper items areJson,
        write, bind_eq_error_iff]
      simp
  | mapping entries =>
    cases isJson with
    | mapping areFields areJson =>
      rw [Document.holdsTooLong_mapping_iff,
        ← writeEntries_eq_error_iff level.deeper entries areFields.haveTextKeys areJson, write,
        bind_eq_error_iff]
      simp
  | set _ => cases isJson
  | pair _ _ => cases isJson

theorem writeItems_eq_error_iff (level : Level) (items : List Document)
    (areJson : ∀ item ∈ items, item.IsJson) {fault : Fault} :
    writeItems level items = .error fault ↔
      (∃ item ∈ items, item.HoldsTooLong) ∧ fault = .numberTooLong := by
  cases items with
  | nil => simp [writeItems]
  | cons item rest =>
    obtain ⟨isJson, areJson⟩ := List.forall_mem_cons.mp areJson
    simp only [List.mem_cons, exists_eq_or_imp]
    rw [writeItems]
    refine bind_eq_error_iff_of_forall (fun _ => write_eq_error_iff level item isJson)
      fun _ fault => ?_
    rw [← writeItems_eq_error_iff level rest areJson, bind_eq_error_iff]
    simp

theorem writeEntries_eq_error_iff (level : Level) (entries : List (Scalar × Document))
    (areTexts : HaveTextKeys entries) (areJson : ∀ entry ∈ entries, entry.2.IsJson)
    {fault : Fault} :
    writeEntries level entries = .error fault ↔
      (∃ entry ∈ entries, entry.1.IsTooLong ∨ entry.2.HoldsTooLong) ∧ fault = .numberTooLong := by
  cases entries with
  | nil => simp [writeEntries]
  | cons entry rest =>
    obtain ⟨key, value⟩ := entry
    obtain ⟨⟨name, isText⟩, areTexts⟩ := List.forall_mem_cons.mp areTexts
    obtain ⟨isJson, areJson⟩ := List.forall_mem_cons.mp areJson
    simp only [List.mem_cons, exists_eq_or_imp, or_assoc]
    rw [writeEntries]
    refine bind_eq_error_iff_of_forall (fun fault => ?_) fun _ fault => ?_
    · refine iff_of_false (keyLiteral_ne_error isText fault) fun long => ?_
      obtain rfl : key = .text name := isText
      exact long.1
    · refine bind_eq_error_iff_of_forall (fun _ => write_eq_error_iff level value isJson)
        fun _ fault => ?_
      rw [← writeEntries_eq_error_iff level rest areTexts areJson, bind_eq_error_iff]
      simp

end

theorem exists_write_eq_ok {document : Document} (isJson : document.IsJson)
    (isShort : ¬document.HoldsTooLong) (level : Level) :
    ∃ written, write level document = .ok written := by
  cases isWritten : write level document with
  | ok written => exact ⟨written, rfl⟩
  | error fault => exact absurd ((write_eq_error_iff level document isJson).mp isWritten).1 isShort

/-- A document that can be stored is written and reads back. -/
theorem exists_indented_eq_ok {document : Document} (isStored : document.CanBeStored nestingLimit) :
    ∃ written, indented document = .ok written ∧ read written = .ok document := by
  obtain ⟨written, isWritten⟩ := exists_write_eq_ok isStored.isJson isStored.isShort (some 0)
  refine ⟨written, ?_, read_write isStored.isJson isStored.isShallow isWritten⟩
  rw [indented, if_pos isStored.isShallow, isWritten]

/-- What is written over several lines reads back. -/
theorem read_of_indented {document : Document} (isJson : document.IsJson) {written : Text}
    (isWritten : indented document = .ok written) : read written = .ok document := by
  unfold indented at isWritten
  split at isWritten
  · next isShallow => exact read_write isJson isShallow isWritten
  · cases isWritten

/-! ### Reading -/

theorem canBeStored_of_readNumber {isNegative : Bool} {text rest : Text} {value : Scalar}
    (isRead : readNumber isNegative text = .ok (value, rest)) :
    value.IsProper ∧ ¬value.IsTooLong := by
  simp only [readNumber] at isRead
  split at isRead
  · cases isRead
  · split at isRead
    · obtain ⟨number, isNumber, isFound⟩ := bind_eq_ok_iff.mp isRead
      cases isFound
      rw [readNumeral] at isNumber
      split at isNumber
      · next short =>
        obtain rfl := Except.ok.inj isNumber
        have small := Nat.lt_of_lt_of_le (numeralValue_lt (takeWhole text).1)
          (powerOfTen_le_powerOfTen short)
        refine ⟨trivial, Nat.not_lt.mpr ?_⟩
        rw [length_decimal_le_iff (by decide)]
        cases isNegative with
        | false => exact small
        | true => rwa [Double.signed, if_pos rfl, Int.natAbs_neg]
      · cases isNumber
    · cases isRead
      exact ⟨Double.isProper_ofDecimal _ _ _, id⟩

theorem canBeStored_of_readBare {text rest : Text} {value : Scalar}
    (isRead : readBare text = .ok (value, rest)) : value.IsProper ∧ ¬value.IsTooLong := by
  unfold readBare at isRead
  split at isRead
  · next found isName =>
    obtain rfl := Except.ok.inj isRead
    obtain ⟨entry, member, isEntry⟩ := List.exists_of_findSome?_eq_some isName
    obtain ⟨_, -, same⟩ := Option.map_eq_some_iff.mp isEntry
    rw [← (Prod.mk.inj same).1]
    simp only [names, List.mem_cons, List.not_mem_nil, or_false] at member
    rcases member with rfl | rfl | rfl | rfl | rfl | rfl <;> exact ⟨trivial, id⟩
  · split at isRead <;> exact canBeStored_of_readNumber isRead

/-- What is read can be stored again. Values, items and entries are read in turns, so one
induction on the steps carries all three. -/
theorem canBeStored_of_readParts (steps : Nat) :
    (∀ {levels text document rest}, readValue steps levels text = .ok (document, rest) →
      document.CanBeStored levels) ∧
    (∀ {levels text items rest}, readItems steps levels text = .ok (items, rest) →
      ∀ item ∈ items, item.CanBeStored levels) ∧
    (∀ {levels text entries rest}, readEntries steps levels text = .ok (entries, rest) →
      HaveTextKeys entries ∧ ∀ entry ∈ entries, entry.2.CanBeStored levels) := by
  induction steps with
  | zero =>
    refine ⟨fun isRead => ?_, fun isRead => ?_, fun isRead => ?_⟩
    · rw [readValue] at isRead
      cases isRead
    · rw [readItems] at isRead
      cases isRead
    · rw [readEntries] at isRead
      cases isRead
  | succ steps ih =>
    obtain ⟨valueStored, itemsStored, entriesStored⟩ := ih
    refine ⟨fun isRead => ?_, fun isRead => ?_, fun isRead => ?_⟩
    · cases readValue_eq_ok_iff.mp isRead with
      | text => exact Document.canBeStored_scalar_iff.mpr ⟨trivial, id⟩
      | emptyList isDeeper =>
        rw [goDown_eq_ok_iff.mp isDeeper]
        exact Document.canBeStored_emptyList _
      | list isDeeper areItems =>
        rw [goDown_eq_ok_iff.mp isDeeper]
        exact Document.canBeStored_list_iff.mpr (itemsStored areItems)
      | emptyMapping isDeeper =>
        rw [goDown_eq_ok_iff.mp isDeeper]
        exact Document.canBeStored_emptyMapping _
      | mapping isDeeper areEntries =>
        obtain ⟨areTexts, areStored⟩ := entriesStored areEntries
        rw [goDown_eq_ok_iff.mp isDeeper]
        exact Document.canBeStored_mapping_iff.mpr
          ⟨.ofEntries areTexts, Table.forall_mem_ofEntries areStored⟩
      | bare isBare =>
        exact Document.canBeStored_scalar_iff.mpr (canBeStored_of_readBare isBare)
    · obtain ⟨item, _, isItem, ⟨-, rfl⟩ | ⟨_, others, -, areOthers, rfl⟩⟩ :=
        readItems_eq_ok_iff.mp isRead
      · exact List.forall_mem_singleton.mpr (valueStored isItem)
      · exact List.forall_mem_cons.mpr ⟨valueStored isItem, itemsStored areOthers⟩
    · obtain ⟨name, _, _, value, _, -, -, isValue, ⟨-, rfl⟩ | ⟨_, others, -, areOthers, rfl⟩⟩ :=
        readEntries_eq_ok_iff.mp isRead
      · exact ⟨List.forall_mem_singleton.mpr ⟨name, rfl⟩,
          List.forall_mem_singleton.mpr (valueStored isValue)⟩
      · obtain ⟨othersTexts, othersStored⟩ := entriesStored areOthers
        exact ⟨List.forall_mem_cons.mpr ⟨⟨name, rfl⟩, othersTexts⟩,
          List.forall_mem_cons.mpr ⟨valueStored isValue, othersStored⟩⟩

/-- A document that was read can be stored. -/
theorem canBeStored_of_read {text : Text} {document : Document}
    (isRead : read text = .ok document) : document.CanBeStored nestingLimit := by
  obtain ⟨⟨found, rest⟩, isFound, isWhole⟩ := bind_eq_ok_iff.mp isRead
  simp only at isWhole
  split at isWhole
  · obtain rfl := Except.ok.inj isWhole
    exact (canBeStored_of_readParts _).1 isFound
  · cases isWhole

end Json

end RadioCall
