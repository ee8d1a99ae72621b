/-
This file shows that the blanks of a text do not matter to the words that come out when its
numbers are written in digits. A gap ends a word and lets a number run go on, whatever its
blanks are; so a text with single spaces for its gaps has the same runs, and it is the
sentence of its words but for blanks at its ends.
-/

import RadioCall.Proofs.Number.Sentence

namespace RadioCall

/-! ### Single spaces -/

/-- A fragment with a single space for a gap. -/
def Fragment.tidy : Fragment → Fragment
  | gap _ => gap [' ']
  | fragment => fragment

/-- A stretch with single spaces for gaps. -/
def Stretch.tidy : Stretch → Stretch
  | run _ spoken => run (sentence (spoken.map NumberWord.spelling)) spoken
  | plain fragment => plain fragment.tidy

theorem Fragment.isProper_space : (gap [' ']).IsProper where
  nonempty := List.cons_ne_nil _ _
  uniform := List.forall_mem_singleton.mpr (kindOf_eq_gap_iff.mpr (by decide))

theorem Fragment.tidy_of_kind_ne_gap {fragment : Fragment} (noGap : fragment.kind ≠ .gap) :
    fragment.tidy = fragment := by
  cases fragment with
  | word letters => rfl
  | gap blanks => exact absurd rfl noGap
  | mark character => rfl

theorem Fragment.tidy_of_number? {fragment : Fragment} {number : NumberWord}
    (isNumber : fragment.number? = some number) : fragment.tidy = fragment := by
  refine tidy_of_kind_ne_gap ?_
  rw [Stretch.kind_of_number? isNumber]
  exact nofun

theorem Fragment.number?_tidy (fragment : Fragment) : fragment.tidy.number? = fragment.number? := by
  cases fragment with
  | word letters => rfl
  | gap blanks => rfl
  | mark character => rfl

/-- A run that follows a single space followed the gap before. -/
theorem Stretch.runFollows_of_map_tidy {following : List Stretch}
    (follows : RunFollows (following.map tidy)) : RunFollows following := by
  obtain ⟨blanks, source, spoken, rest, same⟩ := follows
  match following, same with
  | plain (.gap blanks) :: run source others :: rest, _ => exact ⟨blanks, source, others, rest, rfl⟩

/-- Single spaces for gaps change nothing about the runs. -/
theorem stretchesOf_map_tidy (fragments : List Fragment) :
    stretchesOf (fragments.map Fragment.tidy) = (stretchesOf fragments).map Stretch.tidy := by
  induction fragments with
  | nil => rfl
  | cons fragment rest ih =>
    show Stretch.prepend fragment.tidy (stretchesOf (rest.map Fragment.tidy)) =
      (Stretch.prepend fragment (stretchesOf rest)).map Stretch.tidy
    rw [ih]
    rcases Stretch.prepend_cases fragment (stretchesOf rest) with
      ⟨notNumber, made⟩ | ⟨number, isNumber, ⟨blanks, source, spoken, after, following, made⟩ |
        ⟨noRun, made⟩⟩
    · rw [made, Stretch.prepend_of_number?_none (fragment.number?_tidy.trans notNumber)]
      rfl
    · have isTidy := Fragment.tidy_of_number? isNumber
      obtain ⟨next, others, rfl⟩ := List.exists_cons_of_ne_nil
        (@spoken_ne_nil_of_mem_run rest source spoken (by simp [following]))
      rw [made, following, isTidy, List.map_cons, List.map_cons, List.map_cons]
      simp only [Stretch.tidy, Fragment.tidy, List.map_cons]
      rw [Stretch.prepend_joined isNumber, Fragment.text_eq_spelling isNumber, sentence_cons_cons,
        List.append_assoc, List.singleton_append]
    · have isTidy := Fragment.tidy_of_number? isNumber
      rw [made, isTidy, List.map_cons, Stretch.tidy, List.map_singleton, sentence_singleton,
        ← Fragment.text_eq_spelling isNumber]
      refine Stretch.prepend_of_not_runFollows isNumber fun follows => ?_
      obtain ⟨blanks, source, spoken, rest, isRun⟩ := Stretch.runFollows_of_map_tidy follows
      exact noRun blanks source spoken rest isRun

/-! ### The words that are written -/

/-- The words of a text and of what the stretches behind it are written as. -/
def wordsWritten (before : Text) (stretches : List Stretch) : Except Fault (List Text) :=
  (fun texts => words (before ++ texts.flatten)) <$> stretches.mapM Stretch.written

theorem wordsWritten_stretches (text : Text) :
    wordsWritten [] (stretches text) = words <$> expandNumbers text := by
  rw [wordsWritten, expandNumbers]
  cases (stretches text).mapM Stretch.written with
  | error fault => rfl
  | ok texts => rfl

/-- What a stretch is written as belongs to the text in front of the others. -/
theorem wordsWritten_cons {stretch : Stretch} {text : Text} (written : stretch.written = .ok text)
    (before : Text) (rest : List Stretch) :
    wordsWritten before (stretch :: rest) = wordsWritten (before ++ text) rest := by
  rw [wordsWritten, wordsWritten, List.mapM_cons, written]
  cases rest.mapM Stretch.written with
  | error fault => rfl
  | ok texts => simp [bind, Except.bind, pure, Except.pure, Functor.map, Except.map]

/-- So does what several stretches are written as. -/
theorem wordsWritten_append {front : List Stretch} {text : Text} (writes : Writes front text)
    (before : Text) (rest : List Stretch) :
    wordsWritten before (front ++ rest) = wordsWritten (before ++ text) rest := by
  induction front generalizing before text with
  | nil =>
    have isNil : text = [] := (Except.ok.inj writes).symm
    rw [isNil, List.append_nil, List.nil_append]
  | cons stretch others ih =>
    obtain ⟨own, following, isOwn, isOthers, rfl⟩ := writes_cons_iff.mp writes
    rw [List.cons_append, wordsWritten_cons isOwn, ih isOthers, List.append_assoc]

theorem wordsWritten_cons_of_error {stretch : Stretch} {fault : Fault}
    (fails : stretch.written = .error fault) (before : Text) (rest : List Stretch) :
    wordsWritten before (stretch :: rest) = .error fault := by
  rw [wordsWritten, List.mapM_cons, fails]
  rfl

/-- Behind a gap words begin anew, whatever the blanks of the gap are. -/
theorem wordsWritten_cons_gap {blanks : Text} (proper : (Fragment.gap blanks).IsProper)
    (before : Text) (rest : List Stretch) :
    wordsWritten before (.plain (.gap blanks) :: rest) =
      (words before ++ ·) <$> wordsWritten [] rest := by
  have areBlank : ∀ character ∈ blanks, isBlank character := fun character member =>
    Fragment.kindOf_eq_gap_iff.mp (proper.uniform character member)
  rw [wordsWritten_cons rfl, wordsWritten, wordsWritten]
  cases rest.mapM Stretch.written with
  | error fault => rfl
  | ok texts =>
    have divided := words_append_blanks before proper.nonempty areBlank texts.flatten
    rw [← List.append_assoc] at divided
    exact congrArg Except.ok divided

/-- A stretch that is no gap is written alike with single spaces. -/
theorem Stretch.gap_or_written_tidy (stretch : Stretch) :
    (∃ blanks, stretch = plain (.gap blanks)) ∨ stretch.tidy.written = stretch.written := by
  match stretch with
  | run source spoken => exact .inr rfl
  | plain (.word letters) => exact .inr rfl
  | plain (.gap blanks) => exact .inl ⟨blanks, rfl⟩
  | plain (.mark character) => exact .inr rfl

/-- Single spaces for gaps leave the words that are written as they are. -/
theorem wordsWritten_map_tidy {stretches : List Stretch}
    (proper : ∀ stretch ∈ stretches, stretch.IsProper) (before : Text) :
    wordsWritten before (stretches.map Stretch.tidy) = wordsWritten before stretches := by
  induction stretches generalizing before with
  | nil => rfl
  | cons stretch rest ih =>
    obtain ⟨isProper, properRest⟩ := List.forall_mem_cons.mp proper
    have sameRest := ih properRest
    rw [List.map_cons]
    rcases stretch.gap_or_written_tidy with ⟨blanks, rfl⟩ | same
    · rw [Stretch.tidy, Fragment.tidy, wordsWritten_cons_gap Fragment.isProper_space, sameRest,
        wordsWritten_cons_gap isProper]
    · cases written : stretch.written with
      | ok text =>
        rw [wordsWritten_cons (same.trans written), wordsWritten_cons written, sameRest]
      | error fault =>
        rw [wordsWritten_cons_of_error (same.trans written), wordsWritten_cons_of_error written]

/-- A gap at the end adds no word. -/
theorem wordsWritten_append_gap {blanks : Text} (proper : (Fragment.gap blanks).IsProper)
    (before : Text) (stretches : List Stretch) :
    wordsWritten before (stretches ++ [.plain (.gap blanks)]) = wordsWritten before stretches := by
  induction stretches generalizing before with
  | nil =>
    rw [List.nil_append, wordsWritten_cons_gap proper]
    simp [wordsWritten, words, runsOf, pure, Except.pure, Functor.map, Except.map]
  | cons stretch rest ih =>
    rw [List.cons_append]
    cases written : stretch.written with
    | ok text => rw [wordsWritten_cons written, wordsWritten_cons written, ih]
    | error fault =>
      rw [wordsWritten_cons_of_error written, wordsWritten_cons_of_error written]

/-! ### Texts and the sentences of their words -/

theorem fragments_blanks {blanks : Text} (nonempty : blanks ≠ [])
    (areBlank : ∀ character ∈ blanks, isBlank character) :
    (Fragment.gap blanks).IsProper ∧ fragments blanks = [.gap blanks] := by
  have proper : (Fragment.gap blanks).IsProper :=
    ⟨nonempty, fun character member => Fragment.kindOf_eq_gap_iff.mpr (areBlank character member)⟩
  exact ⟨proper, fragments_text proper⟩

/-- Blanks in front of a text that begins with none are a fragment of their own. -/
theorem fragments_blanks_append {blanks rest : Text}
    (areBlank : ∀ character ∈ blanks, isBlank character)
    (begins : ∀ next ∈ rest.head?, ¬isBlank next) :
    fragments (blanks ++ rest) = fragments blanks ++ fragments rest := by
  refine fragments_append fun last isLast next isNext same => ?_
  have isGap := Fragment.kindOf_eq_gap_iff.mpr (areBlank last (List.mem_of_mem_getLast? isLast))
  exact absurd (Fragment.kindOf_eq_gap_iff.mp (same.symm.trans isGap)) (begins next isNext)

theorem fragments_gap_append {blanks rest : Text} (nonempty : blanks ≠ [])
    (areBlank : ∀ character ∈ blanks, isBlank character)
    (begins : ∀ next ∈ rest.head?, ¬isBlank next) :
    fragments (blanks ++ rest) = .gap blanks :: fragments rest := by
  rw [fragments_blanks_append areBlank begins, (fragments_blanks nonempty areBlank).2,
    List.singleton_append]

/-- A word in front of a blank gives fragments of its own. -/
theorem IsWord.fragments_append {word rest : Text} (isWord : IsWord word)
    (ends : ∀ next ∈ rest.head?, isBlank next) :
    fragments (word ++ rest) = fragments word ++ fragments rest := by
  refine RadioCall.fragments_append fun last isLast next isNext same => ?_
  have isGap := Fragment.kindOf_eq_gap_iff.mpr (ends next isNext)
  exact absurd (same.trans isGap) (isWord.kindOf_getLast?_ne_gap last isLast)

theorem IsWord.map_tidy_fragments {word : Text} (isWord : IsWord word) :
    (fragments word).map Fragment.tidy = fragments word := by
  have same : ∀ fragment ∈ fragments word, fragment.tidy = fragment := fun fragment member =>
    Fragment.tidy_of_kind_ne_gap (isWord.kind_ne_gap member)
  exact (List.map_congr_left same).trans (List.map_id _)

/-- With single spaces for its gaps a text has the fragments of the sentence of its words,
but for a gap at its end. -/
theorem map_tidy_fragments {tokens : List Text} {text : Text}
    (begins : ∀ first ∈ text.head?, ¬isBlank first) (areWords : words text = tokens) :
    ∃ trail, (trail = [] ∨ trail = [.gap [' ']]) ∧
      (fragments text).map Fragment.tidy = fragments (sentence tokens) ++ trail := by
  induction tokens generalizing text with
  | nil =>
    rw [eq_nil_of_words_eq_nil begins areWords]
    exact ⟨[], .inl rfl, rfl⟩
  | cons token others ih =>
    have nonempty : text ≠ [] := fun isNil => by
      rw [isNil] at areWords
      cases areWords
    obtain ⟨word, rest, rfl, isWord, ends⟩ := exists_word_append nonempty begins
    rw [words_append_of_isWord isWord ends] at areWords
    obtain ⟨rfl, areOthers⟩ := List.cons_eq_cons.mp areWords
    rw [isWord.fragments_append ends, List.map_append, isWord.map_tidy_fragments]
    by_cases isLast : rest = []
    · subst isLast
      rw [← areOthers]
      exact ⟨[], .inl rfl, congrArg (fragments · ++ []) (sentence_singleton word).symm⟩
    · obtain ⟨blanks, behind, rfl, areBlank, beginsBehind⟩ := exists_blanks_append rest
      have noBlank : blanks ≠ [] := by
        rintro rfl
        obtain ⟨next, following, rfl⟩ := List.exists_cons_of_ne_nil isLast
        exact beginsBehind next rfl (ends next rfl)
      rw [words_blanks_append areBlank] at areOthers
      obtain ⟨trail, isTrail, sameBehind⟩ := ih beginsBehind areOthers
      rw [fragments_gap_append noBlank areBlank beginsBehind, List.map_cons, Fragment.tidy]
      cases others with
      | nil =>
        rw [eq_nil_of_words_eq_nil beginsBehind areOthers, sentence_singleton]
        exact ⟨[.gap [' ']], .inr rfl, rfl⟩
      | cons next following =>
        have nextIsWord : IsWord next := isWord_of_mem_words (areOthers ▸ List.mem_cons_self)
        refine ⟨trail, isTrail, ?_⟩
        rw [sameBehind, sentence_cons_cons,
          fragments_append_sentence nextIsWord isWord.kindOf_getLast?_ne_gap following]
        simp

/-- A sentence ends with its last word. -/
theorem kindOf_getLast?_sentence_ne_gap {tokens : List Text}
    (areWords : ∀ token ∈ tokens, IsWord token) :
    ∀ last ∈ (sentence tokens).getLast?, Fragment.kindOf last ≠ .gap := by
  induction tokens with
  | nil => exact nofun
  | cons token rest ih =>
    obtain ⟨isWord, areRest⟩ := List.forall_mem_cons.mp areWords
    cases rest with
    | nil =>
      rw [sentence_singleton]
      exact isWord.kindOf_getLast?_ne_gap
    | cons next others =>
      have nonempty : sentence (next :: others) ≠ [] :=
        sentence_cons_ne_nil (areRest next List.mem_cons_self).nonempty others
      rw [sentence_cons_cons, ← List.singleton_append, ← List.append_assoc,
        List.getLast?_append_of_ne_nil _ nonempty]
      exact ih areRest

/-- Blanks in front of a text add no word. -/
theorem words_expandNumbers_blanks_append {blanks rest : Text}
    (areBlank : ∀ character ∈ blanks, isBlank character)
    (begins : ∀ next ∈ rest.head?, ¬isBlank next) :
    words <$> expandNumbers (blanks ++ rest) = words <$> expandNumbers rest := by
  by_cases noBlank : blanks = []
  · rw [noBlank, List.nil_append]
  · obtain ⟨proper, _⟩ := fragments_blanks noBlank areBlank
    have inFront : stretches (blanks ++ rest) = .plain (.gap blanks) :: stretches rest := by
      rw [stretches_eq, fragments_gap_append noBlank areBlank begins]
      rfl
    rw [← wordsWritten_stretches, ← wordsWritten_stretches, inFront, wordsWritten_cons_gap proper]
    cases wordsWritten [] (stretches rest) with
    | error fault => rfl
    | ok heard => rfl

/-- The words that come out when numbers are written in digits depend on the words that go
in, and not on the blanks between them. -/
theorem words_expandNumbers (text : Text) :
    words <$> expandNumbers text = words <$> expandNumbers (sentence (words text)) := by
  obtain ⟨blanks, rest, rfl, areBlank, begins⟩ := exists_blanks_append text
  rw [words_expandNumbers_blanks_append areBlank begins, words_blanks_append areBlank,
    ← wordsWritten_stretches, ← wordsWritten_stretches, stretches_eq, stretches_eq]
  have proper : ∀ stretch ∈ stretchesOf (fragments rest), stretch.IsProper :=
    fun _ member => isProper_of_mem_stretchesOf (fragments_areMaximal rest) member
  obtain ⟨trail, isTrail, isTidy⟩ := map_tidy_fragments begins rfl
  rw [← wordsWritten_map_tidy proper, ← stretchesOf_map_tidy, isTidy]
  rcases isTrail with rfl | rfl
  · rw [List.append_nil]
  · have noGap : ∀ last ∈ (fragments (sentence (words rest))).getLast?, last.kind ≠ .gap :=
      kind_getLast?_fragments_ne_gap
        (kindOf_getLast?_sentence_ne_gap fun _ member => isWord_of_mem_words member)
    rw [stretchesOf_append_gap_apart noGap (.inr fun _ _ _ same => by cases same)]
    exact wordsWritten_append_gap Fragment.isProper_space [] _

/-! ### Words without numbers -/

/-- In front of other words, a word without numbers comes out as it went in and does not
matter to them. -/
theorem words_expandNumbers_cons {word : Text} (isWord : IsWord word)
    (noNumber : HoldsNoNumber word) {others : List Text}
    (areWords : ∀ other ∈ others, IsWord other) :
    words <$> expandNumbers (sentence (word :: others)) =
      (word :: ·) <$> words <$> expandNumbers (sentence others) := by
  cases others with
  | nil =>
    have unchanged : expandNumbers word = .ok word := expandNumbers_eq_ok_iff.mpr noNumber.writes
    rw [sentence_singleton, unchanged]
    exact congrArg Except.ok (words_of_isWord isWord)
  | cons next rest =>
    have split := fragments_append_sentence (areWords next List.mem_cons_self)
      isWord.kindOf_getLast?_ne_gap rest
    have notGap : ∀ last ∈ (fragments word).getLast?, last.kind ≠ .gap :=
      fun last isLast => isWord.kind_ne_gap (List.mem_of_mem_getLast? isLast)
    have apart : ∀ last ∈ (fragments word).getLast?, last.number? = none :=
      fun last isLast => noNumber last (List.mem_of_mem_getLast? isLast)
    rw [sentence_cons_cons, ← wordsWritten_stretches, ← wordsWritten_stretches, stretches_eq, split,
      stretchesOf_append_gap_apart notGap (.inl apart), wordsWritten_append noNumber.writes,
      List.nil_append, wordsWritten_cons_gap Fragment.isProper_space, words_of_isWord isWord,
      stretches_eq]
    rfl

end RadioCall
