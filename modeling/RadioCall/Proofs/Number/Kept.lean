/-
This file is about texts in which scales are the only number words. They stay as they are
when numbers are written in digits, because a number that begins with a scale is kept in
words. A controller callsign and the first word of a callsign are such texts.
-/

import RadioCall.Proofs.Number.Writing

namespace RadioCall

/-! ### Sources of runs -/

/-- A run in a text with single spaces only is the sentence of its words. -/
theorem source_eq_sentence_of_mem_run {fragments : List Fragment}
    (single : ∀ blanks, .gap blanks ∈ fragments → blanks = [' ']) {source : Text}
    {spoken : List NumberWord} (isRun : .run source spoken ∈ stretchesOf fragments) :
    source = sentence (spoken.map NumberWord.spelling) ∧ spoken ≠ [] := by
  let holds : Stretch → Prop := fun stretch =>
    (∀ blanks, stretch = .plain (.gap blanks) → blanks = [' ']) ∧
      ∀ source spoken, stretch = .run source spoken →
        source = sentence (spoken.map NumberWord.spelling) ∧ spoken ≠ []
  refine (forall_mem_stretchesOf holds ?_ ?_ ?_ _ isRun).2 source spoken rfl
  · intro fragment member _
    refine ⟨fun blanks same => single blanks ?_, nofun⟩
    rwa [← Stretch.plain.inj same]
  · intro fragment _ number isNumber
    refine ⟨nofun, fun source spoken same => ?_⟩
    obtain ⟨rfl, rfl⟩ := Stretch.run.inj same
    rw [List.map_singleton, sentence_singleton]
    exact ⟨Fragment.text_eq_spelling isNumber, List.cons_ne_nil _ _⟩
  · intro fragment _ number isNumber blanks others words ofGap ofRun
    refine ⟨nofun, fun source spoken same => ?_⟩
    obtain ⟨rfl, rfl⟩ := Stretch.run.inj same
    obtain ⟨rfl, nonempty⟩ := ofRun.2 others words rfl
    obtain ⟨first, rest, rfl⟩ := List.exists_cons_of_ne_nil nonempty
    refine ⟨?_, List.cons_ne_nil _ _⟩
    rw [ofGap.1 blanks rfl, Fragment.text_eq_spelling isNumber, List.map_cons, List.map_cons,
      List.map_cons, sentence_cons_cons, List.append_assoc, List.singleton_append]

/-! ### Kept texts -/

/-- Fragments in which scales are the only number words, with single spaces between words. -/
structure AreKept (fragments : List Fragment) : Prop where
  scales : ∀ fragment ∈ fragments, ∀ number, fragment.number? = some number → number.isScale
  single : ∀ blanks, .gap blanks ∈ fragments → blanks = [' ']

theorem AreKept.append {first second : List Fragment} (firstKept : AreKept first)
    (secondKept : AreKept second) : AreKept (first ++ second) where
  scales := fun fragment member => (List.mem_append.mp member).elim
    (firstKept.scales fragment) (secondKept.scales fragment)
  single := fun blanks member => (List.mem_append.mp member).elim
    (firstKept.single blanks) (secondKept.single blanks)

theorem AreKept.cons_space {fragments : List Fragment} (kept : AreKept fragments) :
    AreKept (.gap [' '] :: fragments) where
  scales := by
    intro fragment member number isNumber
    rcases List.mem_cons.mp member with rfl | later
    · cases isNumber
    · exact kept.scales fragment later number isNumber
  single := by
    intro blanks member
    rcases List.mem_cons.mp member with same | later
    · exact Fragment.gap.inj same
    · exact kept.single blanks later

/-- A run of kept fragments is made of scales. -/
theorem AreKept.run {fragments : List Fragment} (kept : AreKept fragments) {source : Text}
    {spoken : List NumberWord} (isRun : .run source spoken ∈ stretchesOf fragments) :
    ∀ number ∈ spoken, number.isScale := by
  intro number member
  obtain ⟨fragment, inFragments, isNumber⟩ := exists_word_of_mem_run isRun member
  exact kept.scales fragment inFragments number isNumber

/-- Kept fragments are written as they stand. -/
theorem AreKept.writes {fragments : List Fragment} (kept : AreKept fragments) :
    Writes (stretchesOf fragments) (fragments.flatMap Fragment.text) := by
  rw [← flatMap_text_stretchesOf]
  refine writes_text fun stretch member => ?_
  cases stretch with
  | plain fragment => rfl
  | run source spoken =>
    have isSource := (source_eq_sentence_of_mem_run kept.single member).1
    rw [Stretch.text, isSource]
    exact Cardinal.writtenRun_scales (kept.run member)

/-! ### Texts without numbers -/

/-- Whether no number is spelled out in a text. -/
def HoldsNoNumber (text : Text) : Prop :=
  ∀ fragment ∈ fragments text, fragment.number? = none

instance (text : Text) : Decidable (HoldsNoNumber text) :=
  inferInstanceAs (Decidable (∀ fragment ∈ fragments text, fragment.number? = none))

/-- A text without numbers is written as it stands. -/
theorem HoldsNoNumber.writes {text : Text} (noNumber : HoldsNoNumber text) :
    Writes (stretchesOf (fragments text)) text := by
  have unchanged : ∀ stretch ∈ stretchesOf (fragments text),
      stretch.written = .ok stretch.text := by
    intro stretch member
    cases stretch with
    | plain fragment => rfl
    | run source spoken =>
      obtain ⟨number, others, rfl⟩ := List.exists_cons_of_ne_nil (spoken_ne_nil_of_mem_run member)
      obtain ⟨fragment, inText, isNumber⟩ := exists_word_of_mem_run member List.mem_cons_self
      rw [noNumber fragment inText] at isNumber
      cases isNumber
  have writes := writes_text unchanged
  rwa [flatMap_text_stretchesOf, flatMap_text_fragments] at writes

end RadioCall
