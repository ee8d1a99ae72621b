/-
This file says what becomes of the stretches of a text when its numbers are written in
digits. They are written one after the other, and the only fault is a number with too many
digits.
-/

import RadioCall.Proofs.Number.Cardinal
import RadioCall.Proofs.Number.Stretch
import RadioCall.Proofs.Text.Numeral

namespace RadioCall

/-! ### Writing stretches -/

/-- Whether stretches are written as a text. -/
def Writes (stretches : List Stretch) (text : Text) : Prop :=
  List.flatten <$> stretches.mapM Stretch.written = .ok text

theorem expandNumbers_eq_ok_iff {text result : Text} :
    expandNumbers text = .ok result ↔ Writes (stretchesOf (fragments text)) result := Iff.rfl

theorem writes_nil : Writes [] [] := rfl

theorem writes_cons_iff {stretch : Stretch} {rest : List Stretch} {text : Text} :
    Writes (stretch :: rest) text ↔
      ∃ first others, stretch.written = .ok first ∧ Writes rest others ∧
        text = first ++ others := by
  unfold Writes
  rw [map_eq_ok_iff]
  constructor
  · rintro ⟨texts, written, rfl⟩
    obtain ⟨first, others, isFirst, isRest, rfl⟩ := mapM_cons_eq_ok_iff.mp written
    exact ⟨first, others.flatten, isFirst, map_eq_ok_iff.mpr ⟨others, isRest, rfl⟩, rfl⟩
  · rintro ⟨first, others, isFirst, isRest, rfl⟩
    obtain ⟨texts, mapped, rfl⟩ := map_eq_ok_iff.mp isRest
    exact ⟨first :: texts, mapM_cons_eq_ok_iff.mpr ⟨first, texts, isFirst, mapped, rfl⟩, rfl⟩

theorem writes_append_iff {first second : List Stretch} {text : Text} :
    Writes (first ++ second) text ↔
      ∃ front back, Writes first front ∧ Writes second back ∧ text = front ++ back := by
  induction first generalizing text with
  | nil =>
    constructor
    · exact fun writes => ⟨[], text, writes_nil, writes, rfl⟩
    · rintro ⟨front, back, isFront, isBack, rfl⟩
      obtain rfl := Except.ok.inj isFront
      exact isBack
  | cons stretch rest ih =>
    rw [List.cons_append, writes_cons_iff]
    constructor
    · rintro ⟨own, others, isOwn, isRest, rfl⟩
      obtain ⟨front, back, isFront, isBack, rfl⟩ := ih.mp isRest
      exact ⟨own ++ front, back, writes_cons_iff.mpr ⟨own, front, isOwn, isFront, rfl⟩, isBack,
        (List.append_assoc own front back).symm⟩
    · rintro ⟨front, back, isFront, isBack, rfl⟩
      obtain ⟨own, others, isOwn, isRest, rfl⟩ := writes_cons_iff.mp isFront
      exact ⟨own, others ++ back, isOwn, ih.mpr ⟨others, back, isRest, isBack, rfl⟩,
        List.append_assoc own others back⟩

/-- Stretches that are all written as they stand are written as their text. -/
theorem writes_text {stretches : List Stretch}
    (unchanged : ∀ stretch ∈ stretches, stretch.written = .ok stretch.text) :
    Writes stretches (stretches.flatMap Stretch.text) := by
  induction stretches with
  | nil => exact writes_nil
  | cons stretch rest ih =>
    have isRest := ih fun other member => unchanged other (List.mem_cons_of_mem _ member)
    exact writes_cons_iff.mpr ⟨_, _, unchanged stretch List.mem_cons_self, isRest, rfl⟩

/-! ### Faults -/

/-- Whether a stretch is a number run with a number of too many digits. -/
def Stretch.IsTooLong : Stretch → Prop
  | run _ spoken => ∃ cardinal ∈ Cardinal.divide spoken, cardinal.IsTooLong
  | plain _ => False

theorem Stretch.written_eq_error_iff {stretch : Stretch} {fault : Fault} :
    stretch.written = .error fault ↔ stretch.IsTooLong ∧ fault = .numberTooLong := by
  cases stretch with
  | run source spoken => exact Cardinal.writtenRun_eq_error_iff
  | plain fragment => simp [Stretch.written, Stretch.IsTooLong]

/-- Writing the numbers of a text in digits faults exactly if one has too many digits. -/
theorem expandNumbers_eq_error_iff {text : Text} {fault : Fault} :
    expandNumbers text = .error fault ↔
      (∃ stretch ∈ stretches text, stretch.IsTooLong) ∧ fault = .numberTooLong := by
  rw [expandNumbers, map_eq_error_iff]
  exact mapM_eq_error_iff_of_forall fun _ _ => Stretch.written_eq_error_iff

/-! ### Number words -/

namespace NumberWord

theorem mem_all (word : NumberWord) : word ∈ all := by
  cases word with
  | unit value => simp [all]
  | teen excess => simp [all]
  | tens excess => simp [all]
  | hundred => simp [all]
  | thousand => simp [all]

theorem eq_spelling_of_ofText? {letters : Text} {word : NumberWord}
    (found : ofText? letters = some word) : letters = word.spelling := by
  have same := List.find?_some found
  exact (beq_iff_eq.mp same).symm

theorem ofText?_spelling (word : NumberWord) : ofText? word.spelling = some word := by
  have all : ∀ word ∈ NumberWord.all, ofText? word.spelling = some word := by decide +kernel
  exact all word (mem_all word)

end NumberWord

/-- A number word is written as it is spelled. -/
theorem Fragment.text_eq_spelling {fragment : Fragment} {word : NumberWord}
    (isNumber : fragment.number? = some word) : fragment.text = word.spelling := by
  cases fragment with
  | word letters => exact NumberWord.eq_spelling_of_ofText? isNumber
  | gap blanks => cases isNumber
  | mark character => cases isNumber

end RadioCall
