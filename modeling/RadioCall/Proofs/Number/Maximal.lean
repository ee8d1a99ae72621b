/-
This file shows that the number runs which the pattern finds are the maximal ones: sequences of
whole number words with nothing but blanks between them, of which none is contained in a longer
one. Every sequence of whole number words lies in a run of the stretches, because a word joins
the run behind the next gap; and two runs that are both stretches of a text do not overlap.
-/

import RadioCall.Proofs.Number.Pattern

namespace RadioCall

/-! ### Sequences of whole number words -/

/-- Whether no word character stands directly before or after a part of a text. -/
structure IsWhole (before after : Text) : Prop where
  last : ∀ last ∈ before.getLast?, ¬isWordCharacter last
  next : ∀ next ∈ after.head?, ¬isWordCharacter next

/-- Whether a part of a text is a sequence of whole number words with blanks between them. -/
inductive IsNumberRun : Text → Text → Text → Prop
  | single {before after : Text} (word : NumberWord) (whole : IsWhole before after) :
      IsNumberRun before word.spelling after
  | cons {before blanks source after : Text} (word : NumberWord) (nonempty : blanks ≠ [])
      (areBlank : ∀ character ∈ blanks, isBlank character)
      (whole : IsWhole before (blanks ++ source ++ after))
      (rest : IsNumberRun (before ++ word.spelling ++ blanks) source after) :
      IsNumberRun before (word.spelling ++ blanks ++ source) after

/-- Whether a sequence of whole number words is contained in no longer one. -/
structure IsMaximalNumberRun (before source after : Text) : Prop where
  isRun : IsNumberRun before source after
  noLonger : ∀ start front back rest, before = start ++ front → after = back ++ rest →
    IsNumberRun start (front ++ source ++ back) rest → front = [] ∧ back = []

theorem not_isWordCharacter_of_mem_getLast?_blanks {blanks : Text} (nonempty : blanks ≠ [])
    (areBlank : ∀ character ∈ blanks, isBlank character) (before : Text) :
    ∀ last ∈ (before ++ blanks).getLast?, ¬isWordCharacter last := by
  intro last isLast
  rw [List.getLast?_append_of_ne_nil _ nonempty] at isLast
  exact Fragment.not_isWordCharacter_of_isBlank (areBlank last (List.mem_of_mem_getLast? isLast))

theorem IsNumberRun.isWhole {before source after : Text} (isRun : IsNumberRun before source after) :
    IsWhole before after := by
  induction isRun with
  | single word whole => exact whole
  | cons word nonempty areBlank whole rest ih => exact ⟨whole.last, ih.next⟩

/-- Words that are spelled in a row are such a sequence where no word character adjoins them. -/
theorem Spells.isNumberRun {spoken : List NumberWord} {source : Text}
    (spells : Spells spoken source) {before after : Text} (whole : IsWhole before after) :
    IsNumberRun before source after := by
  induction spells generalizing before with
  | single word => exact .single word whole
  | @cons word blanks text rest nonempty areBlank spells ih =>
    rw [← List.append_assoc]
    refine .cons word nonempty areBlank ⟨whole.last, ?_⟩ (ih ⟨?_, whole.next⟩)
    · rw [List.append_assoc]
      exact not_isWordCharacter_of_mem_head?_blanks nonempty areBlank _
    · exact not_isWordCharacter_of_mem_getLast?_blanks nonempty areBlank _

/-! ### Runs of the stretches -/

/-- The words of what spells number words are their spellings. -/
theorem Spells.words {spoken : List NumberWord} {source : Text} (spells : Spells spoken source) :
    words source = spoken.map NumberWord.spelling := by
  induction spells with
  | single word => exact words_of_isWord (isSolid_spelling word).isWord
  | @cons word blanks text rest nonempty areBlank spells ih =>
    rw [words_append_blanks _ nonempty areBlank, words_of_isWord (isSolid_spelling word).isWord, ih]
    rfl

theorem Spells.kindOf_ends {spoken : List NumberWord} {source : Text}
    (spells : Spells spoken source) :
    source ≠ [] ∧ (∀ first ∈ source.head?, Fragment.kindOf first = .word) ∧
      ∀ last ∈ source.getLast?, Fragment.kindOf last = .word := by
  induction spells with
  | single word =>
    have solid := isSolid_spelling word
    exact ⟨solid.nonempty, fun first isFirst => solid.kindOf (List.mem_of_mem_head? isFirst),
      fun last isLast => solid.kindOf (List.mem_of_mem_getLast? isLast)⟩
  | @cons word blanks text rest nonempty areBlank spells ih =>
    have solid := isSolid_spelling word
    refine ⟨List.append_ne_nil_of_left_ne_nil solid.nonempty _, fun first isFirst => ?_,
      fun last isLast => ?_⟩
    · rw [List.head?_append_of_ne_nil _ solid.nonempty] at isFirst
      exact solid.kindOf (List.mem_of_mem_head? isFirst)
    · rw [← List.append_assoc, List.getLast?_append_of_ne_nil _ ih.1] at isLast
      exact ih.2.2 last isLast

/-- A run that spells its words, or a fragment that is proper. -/
def Stretch.IsSound : Stretch → Prop
  | run source spoken => Spells spoken source
  | plain fragment => fragment.IsProper

theorem isSound_of_mem_stretches (text : Text) :
    ∀ stretch ∈ stretches text, stretch.IsSound := by
  have maximal := fragments_areMaximal text
  refine forall_mem_stretchesOf Stretch.IsSound ?_ ?_ ?_
  · intro fragment member _
    exact maximal.proper fragment member
  · intro fragment _ word isWord
    rw [Fragment.text_eq_spelling isWord]
    exact .single word
  · intro fragment _ word isWord blanks source spoken gap spells
    have areBlank : ∀ character ∈ blanks, isBlank character := fun character member =>
      Fragment.kindOf_eq_gap_iff.mp (gap.uniform character member)
    rw [Fragment.text_eq_spelling isWord, List.append_assoc]
    exact .cons word gap.nonempty areBlank spells

/-- A stretch begins and ends with characters of its kind. -/
theorem Stretch.IsSound.kindOf_ends {stretch : Stretch} (sound : stretch.IsSound) :
    stretch.text ≠ [] ∧ (∀ first ∈ stretch.text.head?, Fragment.kindOf first = stretch.kind) ∧
      ∀ last ∈ stretch.text.getLast?, Fragment.kindOf last = stretch.kind := by
  cases stretch with
  | run source spoken => exact Spells.kindOf_ends sound
  | plain fragment =>
    have proper : fragment.IsProper := sound
    exact ⟨proper.nonempty,
      fun first isFirst => proper.uniform first (List.mem_of_mem_head? isFirst),
      fun last isLast => proper.uniform last (List.mem_of_mem_getLast? isLast)⟩

/-- A run of the stretches is a sequence of whole number words, because a stretch of words does
not stay apart from a run. -/
theorem isNumberRun_of_stretches {text source : Text} {spoken : List NumberWord}
    {front back : List Stretch} (split : stretches text = front ++ .run source spoken :: back) :
    IsNumberRun (front.flatMap Stretch.text) source (back.flatMap Stretch.text) := by
  have sound := isSound_of_mem_stretches text
  have chain := stretchesOf_isChain (fragments_areMaximal text)
  rw [← stretches_eq, split] at chain
  rw [split] at sound
  obtain ⟨_, runChain, meets⟩ := List.isChain_append.mp chain
  have follows := (List.isChain_cons.mp runChain).1
  have spells : Spells spoken source := sound (.run source spoken) (by simp)
  refine spells.isNumberRun ⟨fun last isLast isWord => ?_, fun next isNext isWord => ?_⟩
  · rcases List.eq_nil_or_concat' front with rfl | ⟨init, stretch, rfl⟩
    · cases isLast
    · obtain ⟨nonempty, _, isKind⟩ := (sound stretch (by simp)).kindOf_ends
      rw [List.flatMap_append, List.flatMap_singleton,
        List.getLast?_append_of_ne_nil _ nonempty] at isLast
      have wordKind := (isKind last isLast).symm.trans (Fragment.kindOf_eq_word_iff.mpr isWord)
      have isMark := meets stretch (by simp) (.run source spoken) rfl wordKind
      rw [wordKind] at isMark
      cases isMark
  · cases back with
    | nil => cases isNext
    | cons stretch rest =>
      obtain ⟨nonempty, isKind, _⟩ := (sound stretch (by simp)).kindOf_ends
      rw [List.flatMap_cons, List.head?_append_of_ne_nil _ nonempty] at isNext
      have wordKind := (isKind next isNext).symm.trans (Fragment.kindOf_eq_word_iff.mpr isWord)
      cases follows stretch rfl wordKind.symm

/-! ### The run around a sequence -/

theorem flatMap_text_stretches (text : Text) : (stretches text).flatMap Stretch.text = text := by
  rw [stretches_eq, flatMap_text_stretchesOf, flatMap_text_fragments]

/-- A sequence of whole number words at the beginning of a text is the beginning of a run. -/
theorem IsNumberRun.exists_run_at_head {before source after : Text}
    (isRun : IsNumberRun before source after) :
    ∃ stop spoken back,
      stretchesOf (fragments (source ++ after)) = .run (source ++ stop) spoken :: back := by
  induction isRun with
  | @single before after word whole =>
    have inFront : stretchesOf (.word word.spelling :: fragments after) =
        Stretch.prepend (.word word.spelling) (stretchesOf (fragments after)) := rfl
    rw [fragments_spelling_append word whole.next, inFront]
    rcases Stretch.prepend_cases (.word word.spelling) (stretchesOf (fragments after)) with
      ⟨other, _⟩ | ⟨number, _, ⟨blanks, source, spoken, rest, _, isJoined⟩ | ⟨_, isAlone⟩⟩
    · rw [number?_spelling] at other
      cases other
    · refine ⟨blanks ++ source, number :: spoken, rest, ?_⟩
      rw [isJoined, ← List.append_assoc]
      rfl
    · refine ⟨[], [number], stretchesOf (fragments after), ?_⟩
      rw [isAlone, List.append_nil]
      rfl
  | @cons before blanks source after word nonempty areBlank whole rest ih =>
    obtain ⟨stop, spoken, back, isRest⟩ := ih
    refine ⟨stop, word :: spoken, back, ?_⟩
    have joined := stretchesOf_fragments_spelling_append word nonempty areBlank isRest
    simpa only [List.append_assoc] using joined

/-- Every sequence of whole number words lies in a run of the stretches. -/
theorem IsNumberRun.exists_run {before source after : Text}
    (isRun : IsNumberRun before source after) :
    ∃ front start stop spoken back,
      stretches (before ++ source ++ after) =
          front ++ .run (start ++ source ++ stop) spoken :: back ∧
        before = front.flatMap Stretch.text ++ start ∧
          after = stop ++ back.flatMap Stretch.text := by
  obtain ⟨stop, spoken, back, atHead⟩ := isRun.exists_run_at_head
  obtain ⟨front, start, first, isFront⟩ := foldr_prepend_run (fragments before)
  have closed : Stretch.AreClosed [.run (source ++ stop) spoken] :=
    ⟨List.cons_ne_nil _ _, fun _ same => by cases same⟩
  have isCut : fragments (before ++ (source ++ after)) =
      fragments before ++ fragments (source ++ after) := by
    refine fragments_append fun last isLast next isNext same => ?_
    rw [kindOf_head?_of_run atHead next isNext] at same
    exact absurd (Fragment.kindOf_eq_word_iff.mp same) (isRun.isWhole.last last isLast)
  have isAll : stretches (before ++ source ++ after) =
      front ++ .run (start ++ source ++ stop) (first ++ spoken) :: back := by
    rw [List.append_assoc, stretches_eq, isCut, stretchesOf_append, atHead,
      ← List.singleton_append, (Stretch.foldr_prepend_append_of_areClosed closed _ back).1,
      isFront, List.append_assoc, List.append_assoc, List.singleton_append]
  have isBehind := flatMap_text_stretchesOf (fragments (source ++ after))
  rw [atHead, flatMap_text_fragments, List.flatMap_cons, Stretch.text, List.append_assoc]
    at isBehind
  have isAfter : stop ++ back.flatMap Stretch.text = after := List.append_cancel_left isBehind
  have isText := flatMap_text_stretches (before ++ source ++ after)
  rw [isAll, List.flatMap_append, List.flatMap_cons, Stretch.text, ← isAfter] at isText
  simp only [← List.append_assoc, List.append_left_inj] at isText
  exact ⟨front, start, stop, first ++ spoken, back, isAll, isText.symm, isAfter.symm⟩

/-! ### Maximal runs -/

/-- Of two items of a list the one whose text lies around that of the other is the same. -/
theorem eq_of_append_cons_eq {α : Type} (text : α → Text) {front back outer rest : List α}
    {item around : α} (same : front ++ item :: back = outer ++ around :: rest)
    (nonempty : text item ≠ [])
    (outerLe : (outer.flatMap text).length ≤ (front.flatMap text).length)
    (restLe : (rest.flatMap text).length ≤ (back.flatMap text).length) :
    front = outer ∧ item = around ∧ back = rest := by
  have positive := List.length_pos_iff.mpr nonempty
  rcases List.append_eq_append_iff.mp same with
    ⟨between, isOuter, isBack⟩ | ⟨between, isFront, isRest⟩
  · cases between with
    | nil =>
      obtain ⟨isItem, isBack⟩ := List.cons_eq_cons.mp isBack
      exact ⟨by rw [isOuter, List.append_nil], isItem, isBack⟩
    | cons first others =>
      obtain ⟨rfl, rfl⟩ := List.cons_eq_cons.mp isBack
      rw [isOuter, List.flatMap_append, List.flatMap_cons] at outerLe
      simp only [List.length_append] at outerLe
      omega
  · cases between with
    | nil =>
      obtain ⟨isItem, isBack⟩ := List.cons_eq_cons.mp isRest
      exact ⟨by rw [isFront, List.append_nil], isItem.symm, isBack.symm⟩
    | cons first others =>
      rw [List.cons_append] at isRest
      obtain ⟨rfl, rfl⟩ := List.cons_eq_cons.mp isRest
      rw [List.flatMap_append, List.flatMap_cons] at restLe
      simp only [List.length_append] at restLe
      omega

/-- The runs of the stretches are the maximal sequences of whole number words. -/
theorem stretches_run_iff {text before source after : Text} :
    (∃ front spoken back, stretches text = front ++ .run source spoken :: back ∧
        front.flatMap Stretch.text = before ∧ back.flatMap Stretch.text = after) ↔
      text = before ++ source ++ after ∧ IsMaximalNumberRun before source after := by
  constructor
  · rintro ⟨first, spoken, last, split, rfl, rfl⟩
    have isText := flatMap_text_stretches text
    have isRun := isNumberRun_of_stretches split
    rw [split, List.flatMap_append, List.flatMap_cons, Stretch.text, ← List.append_assoc] at isText
    refine ⟨isText.symm, isRun, fun start front back rest isFirst isLast longer => ?_⟩
    obtain ⟨outer, more, stop, words, others, isAround, isStart, isRest⟩ := longer.exists_run
    have sameText : start ++ (front ++ source ++ back) ++ rest = text := by
      rw [← isText, isFirst, isLast]
      simp only [List.append_assoc]
    have isMember : .run source spoken ∈ stretches text := by simp [split]
    have nonempty : source ≠ [] := (isSound_of_mem_stretches text _ isMember).kindOf_ends.1
    rw [sameText, split] at isAround
    obtain ⟨_, isSame, _⟩ := eq_of_append_cons_eq Stretch.text isAround nonempty
      (by simp only [isFirst, isStart, List.length_append]; omega)
      (by simp only [isLast, isRest, List.length_append]; omega)
    have sameLength := congrArg List.length (Stretch.run.inj isSame).1
    simp only [List.length_append] at sameLength
    exact ⟨List.length_eq_zero_iff.mp (by omega), List.length_eq_zero_iff.mp (by omega)⟩
  · rintro ⟨rfl, isRun, noLonger⟩
    obtain ⟨front, start, stop, spoken, back, split, rfl, rfl⟩ := isRun.exists_run
    obtain ⟨rfl, rfl⟩ := noLonger _ start stop _ rfl rfl (isNumberRun_of_stretches split)
    exact ⟨front, spoken, back, by simpa using split, by simp, by simp⟩

/-! ### What is found and what is written -/

theorem Stretch.flatMap_text_parts (stretch : Stretch) :
    stretch.parts.flatMap Pattern.Part.text = stretch.text := by
  cases stretch with
  | run source spoken => exact List.flatMap_singleton _ _
  | plain fragment =>
    rw [parts, List.flatMap_map]
    exact List.flatMap_singleton' fragment.text

/-- What is found among the parts of stretches is one of the runs. -/
theorem exists_run_of_parts {stretches : List Stretch} {front back : List Pattern.Part}
    {source : Text} (split : stretches.flatMap Stretch.parts = front ++ .found source :: back) :
    ∃ first spoken last, stretches = first ++ .run source spoken :: last ∧
      first.flatMap Stretch.parts = front ∧ last.flatMap Stretch.parts = back := by
  induction stretches generalizing front with
  | nil => cases front <;> cases split
  | cons stretch others ih =>
    rw [List.flatMap_cons] at split
    rcases List.append_eq_append_iff.mp split with
      ⟨between, rfl, isRest⟩ | ⟨between, isParts, isRest⟩
    · obtain ⟨first, spoken, last, rfl, rfl, rfl⟩ := ih isRest
      exact ⟨stretch :: first, spoken, last, rfl, rfl, rfl⟩
    · cases between with
      | nil =>
        obtain ⟨first, spoken, last, rfl, isFirst, rfl⟩ := @ih [] isRest.symm
        refine ⟨stretch :: first, spoken, last, rfl, ?_, rfl⟩
        rw [List.flatMap_cons, isFirst, isParts, List.append_nil, List.append_nil]
      | cons found more =>
        obtain ⟨rfl, rfl⟩ := List.cons_eq_cons.mp isRest
        cases stretch with
        | run other spoken =>
          cases front with
          | nil =>
            obtain ⟨same, rfl⟩ := List.cons_eq_cons.mp isParts
            obtain rfl := Pattern.Part.found.inj same
            exact ⟨[], spoken, others, rfl, rfl, rfl⟩
          | cons first others => cases others <;> cases (List.cons_eq_cons.mp isParts).2
        | plain fragment =>
          have member : .found source ∈ (Stretch.plain fragment).parts := by simp [isParts]
          obtain ⟨_, _, impossible⟩ := List.mem_map.mp member
          cases impossible

theorem Stretch.flatMap_text_flatMap_parts (stretches : List Stretch) :
    (stretches.flatMap Stretch.parts).flatMap Pattern.Part.text =
      stretches.flatMap Stretch.text := by
  rw [List.flatMap_assoc]
  exact List.flatMap_congr fun stretch _ => stretch.flatMap_text_parts

theorem flatten_mapM_append {ε α : Type} {write : α → Except ε Text} (first second : List α) :
    List.flatten <$> (first ++ second).mapM write = do
      let front ← List.flatten <$> first.mapM write
      let back ← List.flatten <$> second.mapM write
      return front ++ back := by
  rw [List.mapM_append]
  cases first.mapM write with
  | error fault => rfl
  | ok front =>
    cases second.mapM write with
    | error fault => rfl
    | ok back => exact congrArg Except.ok List.flatten_append

theorem flatten_mapM_singleton {ε α : Type} {write : α → Except ε Text} (item : α) :
    List.flatten <$> [item].mapM write = write item := by
  rw [List.mapM_cons, List.mapM_nil]
  cases write item with
  | error fault => rfl
  | ok text => exact congrArg Except.ok (by simp)

/-- Parts are written as the stretches are that they come from. -/
theorem flatten_mapM_written {write : Text → Except Fault Text} {stretches : List Stretch}
    (writes : ∀ source spoken, .run source spoken ∈ stretches →
      write source = Cardinal.writtenRun spoken) :
    List.flatten <$> (stretches.flatMap Stretch.parts).mapM (Pattern.Part.written write) =
      List.flatten <$> stretches.mapM Stretch.written := by
  induction stretches with
  | nil => rfl
  | cons stretch rest ih =>
    have isRest := ih fun source spoken member =>
      writes source spoken (List.mem_cons_of_mem _ member)
    have isFirst : List.flatten <$> stretch.parts.mapM (Pattern.Part.written write) =
        stretch.written := by
      cases stretch with
      | run source spoken =>
        exact (flatten_mapM_singleton _).trans (writes source spoken List.mem_cons_self)
      | plain fragment =>
        have passed : (Stretch.plain fragment).parts.mapM (Pattern.Part.written write) =
            .ok (fragment.text.map fun single => [single]) := mapM_map_eq_ok fun _ _ => rfl
        rw [passed]
        exact congrArg Except.ok (List.flatMap_singleton' fragment.text)
    rw [List.flatMap_cons, flatten_mapM_append, isFirst, isRest, ← List.singleton_append,
      flatten_mapM_append, flatten_mapM_singleton]

/-- The pattern finds the maximal sequences of whole number words, and writing the numbers of a
text in digits changes nothing but those. -/
theorem numberRunPattern_findsMaximalRuns (text : Text) :
    (∀ before source after,
      (∃ front back, numberRunPattern.parts [] text = front ++ .found source :: back ∧
          front.flatMap Pattern.Part.text = before ∧ back.flatMap Pattern.Part.text = after) ↔
        text = before ++ source ++ after ∧ IsMaximalNumberRun before source after) ∧
      expandNumbers text = numberRunPattern.substitute
        (fun source => Cardinal.writtenRun ((words source).filterMap NumberWord.ofText?)) text := by
  have isParts : numberRunPattern.parts [] text = (stretches text).flatMap Stretch.parts :=
    parts_numberRunPattern (by simp [Place.isInsideWord])
  constructor
  · intro before source after
    rw [isParts, ← stretches_run_iff]
    constructor
    · rintro ⟨front, back, split, rfl, rfl⟩
      obtain ⟨first, spoken, last, isRun, rfl, rfl⟩ := exists_run_of_parts split
      exact ⟨first, spoken, last, isRun, (Stretch.flatMap_text_flatMap_parts first).symm,
        (Stretch.flatMap_text_flatMap_parts last).symm⟩
    · rintro ⟨first, spoken, last, isRun, rfl, rfl⟩
      refine ⟨first.flatMap Stretch.parts, last.flatMap Stretch.parts, ?_,
        Stretch.flatMap_text_flatMap_parts first, Stretch.flatMap_text_flatMap_parts last⟩
      rw [isRun, List.flatMap_append, List.flatMap_cons]
      rfl
  · rw [Pattern.substitute, isParts, flatten_mapM_written fun source spoken member => ?_]
    · rfl
    · have spells : Spells spoken source := isSound_of_mem_stretches text _ member
      have allFound : (spoken.map NumberWord.spelling).filterMap NumberWord.ofText? = spoken := by
        rw [List.filterMap_map]
        refine (List.filterMap_congr fun word _ => ?_).trans List.filterMap_some
        exact NumberWord.ofText?_spelling word
      rw [spells.words, allFound]

end RadioCall
