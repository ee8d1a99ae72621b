/-
This file says which documents can be gone through and which can be shown. Going through a
document fails only for a scalar without parts that does not count as absent. Showing it fails
only for a number with too many digits, at whatever depth the number stands, and for documents
within one another at too many levels. A document is shown part by part, so the first part that
cannot be shown decides between the two.
-/

import RadioCall.Document.Shown
import RadioCall.Proofs.Checked
import RadioCall.Proofs.Text.Numeral

namespace RadioCall

/-! ### Going through a document -/

namespace Document

/-- Whether a document lists nothing that could be gone through: a number, truth value, date or
moment that does not count as absent. -/
def IsUnlistable : Document → Prop
  | scalar (.text _) => False
  | scalar (.bytes _) => False
  | scalar value => ¬value.isFalsy
  | _ => False

theorem members_eq_error_iff {listed : Document} {fault : Fault} :
    listed.members = .error fault ↔ listed.IsUnlistable ∧ fault = .wrongKind := by
  have ofScalar (value : Scalar) :
      (if value.isFalsy then .ok [] else .error .wrongKind : Except Fault (List Document)) =
          .error fault ↔ ¬value.isFalsy ∧ fault = .wrongKind := by
    split
    · next falsy => simp [falsy]
    · next present => simp [present, @eq_comm _ fault]
  cases listed with
  | list items => simp [members, IsUnlistable]
  | mapping entries => simp [members, IsUnlistable]
  | set items => simp [members, IsUnlistable]
  | pair first second => simp [members, IsUnlistable]
  | scalar value =>
    cases value with
    | text value => simp [members, IsUnlistable]
    | bytes value => simp [members, IsUnlistable]
    | null => exact ofScalar .null
    | boolean value => exact ofScalar (.boolean value)
    | integer value => exact ofScalar (.integer value)
    | double value => exact ofScalar (.double value)
    | date value => exact ofScalar (.date value)
    | moment value => exact ofScalar (.moment value)

/-- A document lists nothing exactly if it counts as absent. -/
theorem members_eq_nil_iff {listed : Document} : listed.members = .ok [] ↔ listed.isFalsy := by
  have ofScalar (value : Scalar) :
      (if value.isFalsy then .ok [] else .error .wrongKind : Except Fault (List Document)) =
          .ok [] ↔ value.isFalsy := by
    split <;> simp_all
  cases listed with
  | list items => simp [members, isFalsy]
  | mapping entries => simp [members, isFalsy]
  | set items => simp [members, isFalsy]
  | pair first second => simp [members, isFalsy]
  | scalar value =>
    cases value with
    | text value => simp [members, isFalsy, Scalar.isFalsy]
    | bytes value => simp [members, isFalsy, Scalar.isFalsy]
    | null => exact ofScalar .null
    | boolean value => exact ofScalar (.boolean value)
    | integer value => exact ofScalar (.integer value)
    | double value => exact ofScalar (.double value)
    | date value => exact ofScalar (.date value)
    | moment value => exact ofScalar (.moment value)

end Document

/-! ### Numbers with too many digits -/

/-- Whether a number has more digits than a numeral may have. -/
def HasTooManyDigits (value : Int) : Prop :=
  numeralLimit < (decimal value.natAbs).length

theorem writeInteger_eq_error_iff {value : Int} {fault : Fault} :
    writeInteger value = .error fault ↔ HasTooManyDigits value ∧ fault = .numberTooLong := by
  rw [HasTooManyDigits, ← Nat.not_le, length_decimal_le_iff (by decide), writeInteger]
  split
  · next short => simp [short]
  · next long => simp [long, @eq_comm _ fault]

theorem HasTooManyDigits.ten_le {value : Int} (long : HasTooManyDigits value) :
    10 ≤ value.natAbs :=
  one_lt_length_decimal_iff.mp (Nat.lt_trans (by decide) long)

namespace Scalar

/-- Whether a scalar is a number with too many digits. -/
def IsTooLong : Scalar → Prop
  | integer value => HasTooManyDigits value
  | _ => False

theorem shown_eq_error_iff {value : Scalar} {fault : Fault} :
    value.shown = .error fault ↔ value.IsTooLong ∧ fault = .numberTooLong := by
  cases value with
  | integer value => exact writeInteger_eq_error_iff
  | boolean value => cases value <;> simp [shown, IsTooLong]
  | _ => simp [shown, IsTooLong]

end Scalar

/-! ### The parts of a document -/

namespace Document

/-- The parts of a document in the order in which they are shown. -/
def parts : Document → List Document
  | scalar _ => []
  | list items => items
  | mapping entries => entries.flatMap fun entry => [scalar entry.1, entry.2]
  | set items => items.map scalar
  | pair first second => [first, second]

/-- Whether a document is one with places for parts. -/
def IsNested : Document → Prop
  | scalar _ => False
  | _ => True

/-- Whether a document is a number with too many digits, or holds one. -/
inductive HoldsTooLong : Document → Prop
  | scalar {value : Scalar} (long : value.IsTooLong) : HoldsTooLong (scalar value)
  | part {document part : Document} (member : part ∈ document.parts) (long : HoldsTooLong part) :
    HoldsTooLong document

theorem holdsTooLong_scalar_iff {value : Scalar} :
    (scalar value).HoldsTooLong ↔ value.IsTooLong := by
  refine ⟨fun long => ?_, .scalar⟩
  cases long with
  | scalar long => exact long
  | part member _ => cases member

theorem holdsTooLong_iff_of_isNested {document : Document} (nested : document.IsNested) :
    document.HoldsTooLong ↔ ∃ part ∈ document.parts, part.HoldsTooLong := by
  constructor
  · intro long
    cases long with
    | scalar _ => exact nested.elim
    | part member long => exact ⟨_, member, long⟩
  · rintro ⟨part, member, long⟩
    exact .part member long

theorem holdsTooLong_list_iff {items : List Document} :
    (list items).HoldsTooLong ↔ ∃ item ∈ items, item.HoldsTooLong :=
  holdsTooLong_iff_of_isNested trivial

theorem holdsTooLong_mapping_iff {entries : List (Scalar × Document)} :
    (mapping entries).HoldsTooLong ↔
      ∃ entry ∈ entries, entry.1.IsTooLong ∨ entry.2.HoldsTooLong := by
  have nested : (mapping entries).IsNested := trivial
  rw [holdsTooLong_iff_of_isNested nested]
  simp only [parts, List.mem_flatMap, List.mem_cons, List.not_mem_nil, or_false]
  constructor
  · rintro ⟨part, ⟨entry, member, rfl | rfl⟩, long⟩
    · exact ⟨entry, member, .inl (holdsTooLong_scalar_iff.mp long)⟩
    · exact ⟨entry, member, .inr long⟩
  · rintro ⟨entry, member, long | long⟩
    · exact ⟨_, ⟨entry, member, .inl rfl⟩, .scalar long⟩
    · exact ⟨_, ⟨entry, member, .inr rfl⟩, long⟩

/-! ### Depth -/

theorem itemsDepth_le_iff {items : List Document} {levels : Nat} :
    itemsDepth items ≤ levels ↔ ∀ item ∈ items, item.depth ≤ levels := by
  induction items with
  | nil => exact iff_of_true (Nat.zero_le levels) nofun
  | cons item rest ih => rw [itemsDepth, Nat.max_le, ih, List.forall_mem_cons]

theorem entriesDepth_le_iff {entries : List (Scalar × Document)} {levels : Nat} :
    entriesDepth entries ≤ levels ↔ ∀ entry ∈ entries, entry.2.depth ≤ levels := by
  induction entries with
  | nil => exact iff_of_true (Nat.zero_le levels) nofun
  | cons entry rest ih =>
    obtain ⟨key, value⟩ := entry
    rw [entriesDepth, Nat.max_le, ih, List.forall_mem_cons]

theorem depth_pos_of_isNested {document : Document} (nested : document.IsNested) :
    0 < document.depth := by
  cases document with
  | scalar _ => exact nested.elim
  | set items => rw [depth]; exact Nat.one_pos
  | _ => rw [depth]; exact Nat.succ_pos _

/-- A document is a level deeper than its parts. -/
theorem depth_le_succ_iff {document : Document} {levels : Nat} :
    document.depth ≤ levels + 1 ↔ ∀ part ∈ document.parts, part.depth ≤ levels := by
  cases document with
  | scalar value => simp [depth, parts]
  | list items => rw [depth, Nat.add_le_add_iff_right, itemsDepth_le_iff, parts]
  | mapping entries =>
    rw [depth, Nat.add_le_add_iff_right, entriesDepth_le_iff, parts, List.forall_mem_flatMap]
    simp [depth]
  | set items => simp [depth, parts]
  | pair first second =>
    rw [depth, Nat.add_le_add_iff_right, Nat.max_le]
    simp [parts]

/-! ### Showing a document -/

/-- Whether a document can be shown with documents within one another at so many levels. -/
structure CanBeShown (levels : Nat) (document : Document) : Prop where
  isShallow : document.depth ≤ levels
  isShort : ¬document.HoldsTooLong

theorem canBeShown_scalar_iff {levels : Nat} {value : Scalar} :
    (scalar value).CanBeShown levels ↔ ¬value.IsTooLong := by
  rw [← holdsTooLong_scalar_iff]
  refine ⟨CanBeShown.isShort, fun isShort => ⟨?_, isShort⟩⟩
  rw [depth]
  exact Nat.zero_le levels

theorem canBeShown_succ_iff {levels : Nat} {document : Document} (nested : document.IsNested) :
    document.CanBeShown (levels + 1) ↔ ∀ part ∈ document.parts, part.CanBeShown levels := by
  constructor
  · rintro ⟨isShallow, isShort⟩ part member
    exact ⟨depth_le_succ_iff.mp isShallow part member, fun long => isShort (.part member long)⟩
  · intro partsShown
    refine ⟨depth_le_succ_iff.mpr fun part member => (partsShown part member).isShallow, ?_⟩
    rw [holdsTooLong_iff_of_isNested nested]
    rintro ⟨part, member, long⟩
    exact (partsShown part member).isShort long

/-- How showing a document breaks off: at a number with too many digits, at a document that
stands too deep, or in a part after those that can be shown. -/
inductive ShowBreaksOff : Nat → Document → Fault → Prop
  | tooLong {levels : Nat} {value : Scalar} (long : value.IsTooLong) :
    ShowBreaksOff levels (scalar value) .numberTooLong
  | tooDeep {document : Document} (nested : document.IsNested) :
    ShowBreaksOff 0 document .nestedTooDeep
  | part {levels : Nat} {document part : Document} {before after : List Document} {fault : Fault}
    (split : document.parts = before ++ part :: after)
    (shown : ∀ earlier ∈ before, earlier.CanBeShown levels)
    (breaks : ShowBreaksOff levels part fault) : ShowBreaksOff (levels + 1) document fault

theorem showBreaksOff_scalar_iff {levels : Nat} {value : Scalar} {fault : Fault} :
    ShowBreaksOff levels (scalar value) fault ↔ value.IsTooLong ∧ fault = .numberTooLong := by
  constructor
  · intro breaks
    cases breaks with
    | tooLong long => exact ⟨long, rfl⟩
    | tooDeep nested => exact nested.elim
    | part split _ _ => exact absurd split.symm (by simp [parts])
  · rintro ⟨long, rfl⟩
    exact .tooLong long

/-- A document cannot be shown for one of two reasons. -/
theorem ShowBreaksOff.fault_cases {levels : Nat} {document : Document} {fault : Fault}
    (breaks : ShowBreaksOff levels document fault) :
    fault = .numberTooLong ∨ fault = .nestedTooDeep := by
  induction breaks with
  | tooLong _ => exact .inl rfl
  | tooDeep _ => exact .inr rfl
  | part _ _ _ ih => exact ih

section

variable {levels : Nat} {fault : Fault}

theorem shownWithin_scalar (value : Scalar) : (scalar value).shownWithin levels = value.shown := by
  cases levels <;> rfl

theorem shownWithin_zero {document : Document} (nested : document.IsNested) :
    document.shownWithin 0 = .error .nestedTooDeep := by
  cases document with
  | scalar _ => exact nested.elim
  | _ => rfl

theorem shownItems_eq_error_iff {items : List Document} :
    shownItems levels items = .error fault ↔
      items.mapM (shownWithin levels) = .error fault := by
  induction items with
  | nil => simp [shownItems, List.mapM_nil, pure, Except.pure]
  | cons item rest ih =>
    rw [shownItems, List.mapM_cons, bind_eq_error_iff, bind_eq_error_iff]
    simp only [bind_eq_error_iff, ih, pure, Except.pure, reduceCtorEq, and_false, exists_false,
      or_false]

theorem shownEntries_eq_error_iff {entries : List (Scalar × Document)} :
    shownEntries levels entries = .error fault ↔
      (entries.flatMap fun entry => [scalar entry.1, entry.2]).mapM (shownWithin levels) =
        .error fault := by
  induction entries with
  | nil => simp [shownEntries, List.mapM_nil, pure, Except.pure]
  | cons entry rest ih =>
    obtain ⟨key, value⟩ := entry
    rw [shownEntries, List.flatMap_cons, List.cons_append, List.cons_append, List.nil_append,
      List.mapM_cons, List.mapM_cons, shownWithin_scalar]
    simp only [bind_eq_error_iff, ih, pure, Except.pure, reduceCtorEq, and_false, exists_false,
      or_false]

/-- Showing a document faults as showing its parts one after another does. -/
theorem shownWithin_succ_eq_error_iff {document : Document} (nested : document.IsNested) :
    document.shownWithin (levels + 1) = .error fault ↔
      document.parts.mapM (shownWithin levels) = .error fault := by
  cases document with
  | scalar _ => exact nested.elim
  | list items => simp [shownWithin, parts, bind_eq_error_iff, shownItems_eq_error_iff]
  | mapping entries => simp [shownWithin, parts, bind_eq_error_iff, shownEntries_eq_error_iff]
  | set items =>
    have sameSteps : (shownWithin levels ∘ scalar) = Scalar.shown :=
      funext shownWithin_scalar
    rw [shownWithin, parts, List.mapM_map, sameSteps, bind_eq_error_iff]
    simp
  | pair first second =>
    rw [shownWithin, parts, List.mapM_cons, List.mapM_cons, List.mapM_nil]
    simp only [bind_eq_error_iff, pure, Except.pure, reduceCtorEq, and_false, exists_false,
      or_false]

theorem shownWithin_scalar_eq_error_iff {value : Scalar} :
    (scalar value).shownWithin levels = .error fault ↔
      ShowBreaksOff levels (scalar value) fault := by
  rw [shownWithin_scalar, Scalar.shown_eq_error_iff, showBreaksOff_scalar_iff]

theorem exists_shownWithin_scalar_eq_ok_iff {value : Scalar} :
    (∃ text, (scalar value).shownWithin levels = .ok text) ↔
      (scalar value).CanBeShown levels := by
  rw [exists_eq_ok_iff, canBeShown_scalar_iff]
  simp [shownWithin_scalar, Scalar.shown_eq_error_iff]

end

/-- A document can be shown exactly if it is not nested too deep and holds no number with too
many digits; otherwise the first part that cannot be shown tells why. -/
theorem shownWithin_cases (levels : Nat) (document : Document) :
    ((∃ text, document.shownWithin levels = .ok text) ↔ document.CanBeShown levels) ∧
      ∀ fault, document.shownWithin levels = .error fault ↔
        ShowBreaksOff levels document fault := by
  have ofScalar {levels : Nat} {document : Document} (isScalar : ¬document.IsNested) :
      ((∃ text, document.shownWithin levels = .ok text) ↔ document.CanBeShown levels) ∧
        ∀ fault, document.shownWithin levels = .error fault ↔
          ShowBreaksOff levels document fault := by
    cases document with
    | scalar value =>
      exact ⟨exists_shownWithin_scalar_eq_ok_iff, fun _ => shownWithin_scalar_eq_error_iff⟩
    | _ => exact absurd trivial isScalar
  induction levels generalizing document with
  | zero =>
    by_cases nested : document.IsNested
    · rw [shownWithin_zero nested]
      constructor
      · refine iff_of_false (by rintro ⟨_, ⟨⟩⟩) fun shown => ?_
        exact absurd shown.isShallow (Nat.not_le.mpr (depth_pos_of_isNested nested))
      · intro fault
        constructor
        · rintro ⟨⟩
          exact .tooDeep nested
        · intro breaks
          cases breaks with
          | tooLong _ => exact nested.elim
          | tooDeep _ => rfl
    · exact ofScalar nested
  | succ levels ih =>
    by_cases nested : document.IsNested
    · constructor
      · rw [exists_eq_ok_iff_of_error_iff fun _ => shownWithin_succ_eq_error_iff nested,
          exists_mapM_eq_ok_iff, canBeShown_succ_iff nested]
        exact forall₂_congr fun part _ => (ih part).1
      · intro fault
        rw [shownWithin_succ_eq_error_iff nested, mapM_eq_error_iff]
        constructor
        · rintro ⟨before, part, after, shown, split, areShown, fails⟩
          refine .part split (fun earlier member => (ih earlier).1.mp ?_)
            ((ih part).2 fault |>.mp fails)
          exact exists_mapM_eq_ok_iff.mp ⟨shown, areShown⟩ earlier member
        · intro breaks
          cases breaks with
          | tooLong _ => exact nested.elim
          | @part _ _ part before after _ split areShown breaks =>
            obtain ⟨shown, isShown⟩ := exists_mapM_eq_ok_iff.mpr fun earlier member =>
              (ih earlier).1.mpr (areShown earlier member)
            exact ⟨before, part, after, shown, split, isShown, ((ih part).2 fault).mpr breaks⟩
    · exact ofScalar nested

/-- A document cannot be shown exactly if showing it breaks off. -/
theorem shown_eq_error_iff {document : Document} {fault : Fault} :
    document.shown = .error fault ↔ ShowBreaksOff nestingLimit document fault :=
  (shownWithin_cases nestingLimit document).2 fault

/-- Scalars in a list can be shown unless one has too many digits. -/
theorem showBreaksOff_scalars_iff {values : List Scalar} {levels : Nat} {fault : Fault} :
    ShowBreaksOff (levels + 1) (list (values.map scalar)) fault ↔
      (∃ value ∈ values, value.IsTooLong) ∧ fault = .numberTooLong := by
  have nested : (list (values.map scalar)).IsNested := trivial
  rw [← (shownWithin_cases _ _).2, shownWithin_succ_eq_error_iff nested, parts, List.mapM_map]
  refine mapM_eq_error_iff_of_forall fun value fault => ?_
  rw [Function.comp_apply, shownWithin_scalar, Scalar.shown_eq_error_iff]

/-- Speaking a document fails as showing it does. -/
theorem spoken_eq_error_iff {document : Document} {fault : Fault} :
    document.spoken = .error fault ↔ ShowBreaksOff nestingLimit document fault := by
  rw [← shown_eq_error_iff]
  cases document with
  | scalar value => cases value <;> simp [spoken, shown, shownWithin_scalar, Scalar.shown]
  | _ => rw [spoken] <;> nofun

theorem exists_spoken_eq_ok_iff {document : Document} :
    (∃ text, document.spoken = .ok text) ↔ document.CanBeShown nestingLimit := by
  rw [← (shownWithin_cases nestingLimit document).1]
  exact exists_eq_ok_iff_of_error_iff fun _ => spoken_eq_error_iff.trans shown_eq_error_iff.symm

end Document

end RadioCall
