/-
This file gives the pattern that finds number runs in a text: a number word, then any number of
others with blanks in front of them, between two boundaries of words. In whatever order the
words are tried, one that only begins a longer word is given up, because neither blanks nor a
boundary follow it. So what the pattern finds in a text are the runs among its stretches.
-/

import RadioCall.Proofs.Number.Name
import RadioCall.Proofs.Text.Pattern

namespace RadioCall

/-! ### The pattern -/

/-- The number words, those with longer spellings first. -/
def NumberWord.longestFirst : List NumberWord :=
  all.mergeSort fun first second => second.spelling.length ≤ first.spelling.length

/-- A number word. -/
def numberWordPattern : Pattern :=
  .anyOf (NumberWord.longestFirst.map NumberWord.spelling)

/-- A number word with blanks in front of it. -/
def laterWordPattern : Pattern :=
  .sequence (.repeatedOnce (.character isBlank)) numberWordPattern

/-- A number run, from one boundary of a word to another. -/
def numberRunPattern : Pattern :=
  .sequence .boundary
    (.sequence numberWordPattern (.sequence (.repeated laterWordPattern) .boundary))

/-! ### Words at the beginning of a text -/

/-- A text begins with a whole number word, or its first fragment is none. -/
theorem exists_spelling_append_or (text : Text) :
    (∃ (word : NumberWord) (rest : Text), text = word.spelling ++ rest ∧
        ∀ next ∈ rest.head?, ¬isWordCharacter next) ∨
      ∀ first ∈ (fragments text).head?, first.number? = none := by
  cases isFirst : (fragments text).head? with
  | none => exact .inr nofun
  | some first =>
    cases isNumber : first.number? with
    | none => exact .inr fun other same => Option.some.inj same ▸ isNumber
    | some word => exact .inl ⟨word, exists_spelling_append isFirst isNumber⟩

/-- A text that begins with no word character begins with no number word. -/
theorem number?_of_not_isWordCharacter {text : Text}
    (begins : ∀ next ∈ text.head?, ¬isWordCharacter next) :
    ∀ first ∈ (fragments text).head?, first.number? = none := by
  intro first isFirst
  by_contra isNumber
  obtain ⟨word, isNumber⟩ := Option.ne_none_iff_exists'.mp isNumber
  have sameKind := kind_head?_fragments text
  rw [Option.mem_def.mp isFirst, Option.map_some, Stretch.kind_of_number? isNumber] at sameKind
  obtain ⟨next, isNext, isKind⟩ := Option.map_eq_some_iff.mp sameKind.symm
  exact begins next isNext (Fragment.kindOf_eq_word_iff.mp isKind)

/-! ### Which words are given up -/

namespace NumberWord

theorem longestFirst_perm : longestFirst.Perm all :=
  List.mergeSort_perm _ _

theorem mem_longestFirst (word : NumberWord) : word ∈ longestFirst :=
  longestFirst_perm.mem_iff.mpr (mem_all word)

theorem longestFirst_nodup : longestFirst.Nodup :=
  longestFirst_perm.nodup_iff.mpr (by decide)

end NumberWord

/-- Of items without repetitions only one has images. -/
theorem flatMap_eq_of_nodup {α β : Type} {items : List α} (nodup : items.Nodup) {item : α}
    (member : item ∈ items) {images : α → List β}
    (others : ∀ other, other ≠ item → images other = []) : items.flatMap images = images item := by
  obtain ⟨front, back, rfl⟩ := List.append_of_mem member
  obtain ⟨_, backNodup, apart⟩ := List.nodup_append.mp nodup
  have noFront : front.flatMap images = [] := List.flatMap_eq_nil_iff.mpr fun other inFront =>
    others other (apart other inFront item List.mem_cons_self)
  have noBack : back.flatMap images = [] := List.flatMap_eq_nil_iff.mpr fun other inBack =>
    others other fun same => (List.nodup_cons.mp backNodup).1 (same ▸ inBack)
  rw [List.flatMap_append, List.flatMap_cons, noFront, noBack, List.append_nil, List.nil_append]

theorem not_isBlank_of_mem_spelling {number : NumberWord} {character : Char}
    (member : character ∈ number.spelling) : ¬isBlank character := by
  rw [(isSolid_spelling number).isWord.unbroken character member]
  exact Bool.false_ne_true

/-- A text that ends with a number word ends with a word character. -/
theorem any_getLast?_append_spelling (before : Text) (word : NumberWord) :
    (before ++ word.spelling).getLast?.any isWordCharacter := by
  obtain ⟨front, last, split⟩ :=
    (List.eq_nil_or_concat' word.spelling).resolve_left (isSolid_spelling word).nonempty
  have isWord := (isSolid_spelling word).areWord last (by simp [split])
  rw [split, ← List.append_assoc, List.getLast?_concat]
  exact isWord

theorem ways_laterWordPattern_of_not_isBlank {behind : Text}
    (begins : ∀ next ∈ behind.head?, ¬isBlank next) (before : Text) :
    laterWordPattern.ways ⟨before, behind⟩ = [] := by
  rw [laterWordPattern, Pattern.ways_sequence, Pattern.ways_repeatedOnce_character_of_ends begins,
    List.flatMap_nil]

section GivingUp

variable {next : Place → List Place} (fails : ∀ place : Place, place.isInsideWord → next place = [])
include fails

/-- If nothing goes on inside of words, only a whole word is not given up. -/
theorem flatMap_ways_spelling {word : NumberWord} {behind : Text}
    (noWord : (fragments behind).head? ≠ some (.word word.spelling)) (before : Text) :
    ((Pattern.literal word.spelling).ways ⟨before, behind⟩).flatMap next = [] := by
  by_cases begins : word.spelling <+: behind
  · obtain ⟨rest, rfl⟩ := begins
    rw [Pattern.ways_literal_append, List.flatMap_singleton]
    refine fails _ (Place.isInsideWord_of_any (any_getLast?_append_spelling before word) ?_)
    by_contra ends
    rw [fragments_spelling_append word (not_any_head?_iff.mp ends)] at noWord
    exact noWord rfl
  · rw [Pattern.ways_literal_of_not_prefix begins, List.flatMap_nil]

theorem flatMap_ways_numberWordPattern (word : NumberWord) {rest : Text}
    (ends : ∀ next ∈ rest.head?, ¬isWordCharacter next) (before : Text) :
    (numberWordPattern.ways ⟨before, word.spelling ++ rest⟩).flatMap next =
      next ⟨before ++ word.spelling, rest⟩ := by
  rw [numberWordPattern, Pattern.ways_anyOf, List.flatMap_map, List.flatMap_assoc,
    flatMap_eq_of_nodup NumberWord.longestFirst_nodup (NumberWord.mem_longestFirst word),
    Pattern.ways_literal_append, List.flatMap_singleton]
  intro other isOther
  refine flatMap_ways_spelling fails (fun isWord => isOther ?_) before
  rw [fragments_spelling_append word ends, List.head?_cons] at isWord
  have sameSpelling := Fragment.word.inj (Option.some.inj isWord)
  have sameWord := NumberWord.ofText?_spelling word
  rw [sameSpelling, NumberWord.ofText?_spelling] at sameWord
  exact Option.some.inj sameWord

theorem flatMap_ways_numberWordPattern_of_none {behind : Text}
    (noNumber : ∀ first ∈ (fragments behind).head?, first.number? = none) (before : Text) :
    (numberWordPattern.ways ⟨before, behind⟩).flatMap next = [] := by
  rw [numberWordPattern, Pattern.ways_anyOf, List.flatMap_map, List.flatMap_assoc]
  refine List.flatMap_eq_nil_iff.mpr fun word _ =>
    flatMap_ways_spelling fails (fun isWord => ?_) before
  have none := noNumber _ isWord
  rw [number?_spelling] at none
  cases none

theorem flatMap_ways_numberWordPattern_of_blank (place : Place)
    (begins : place.behind.head?.any isBlank) :
    (numberWordPattern.ways place).flatMap next = [] := by
  refine flatMap_ways_numberWordPattern_of_none fails ?_ place.before
  refine number?_of_not_isWordCharacter fun character isFirst => ?_
  rw [Option.mem_def.mp isFirst] at begins
  exact Fragment.not_isWordCharacter_of_isBlank begins

/-- Another number word has blanks in front of it. -/
theorem flatMap_ways_laterWordPattern {blanks : Text} (nonempty : blanks ≠ [])
    (areBlank : ∀ character ∈ blanks, isBlank character) (word : NumberWord) {rest : Text}
    (ends : ∀ next ∈ rest.head?, ¬isWordCharacter next) (before : Text) :
    (laterWordPattern.ways ⟨before, blanks ++ (word.spelling ++ rest)⟩).flatMap next =
      next ⟨before ++ blanks ++ word.spelling, rest⟩ := by
  have begins : ∀ next ∈ (word.spelling ++ rest).head?, ¬isBlank next := by
    intro next isNext
    rw [List.head?_append_of_ne_nil _ (isSolid_spelling word).nonempty] at isNext
    exact not_isBlank_of_mem_spelling (List.mem_of_mem_head? isNext)
  rw [laterWordPattern, Pattern.ways_sequence, List.flatMap_assoc,
    Pattern.flatMap_repeatedOnce_character nonempty areBlank begins
      (flatMap_ways_numberWordPattern_of_blank fails),
    flatMap_ways_numberWordPattern fails word ends]

theorem flatMap_ways_laterWordPattern_of_none {blanks rest : Text}
    (areBlank : ∀ character ∈ blanks, isBlank character)
    (begins : ∀ next ∈ rest.head?, ¬isBlank next)
    (noNumber : blanks = [] ∨ ∀ first ∈ (fragments rest).head?, first.number? = none)
    (before : Text) : (laterWordPattern.ways ⟨before, blanks ++ rest⟩).flatMap next = [] := by
  by_cases nonempty : blanks = []
  · rw [nonempty, List.nil_append, ways_laterWordPattern_of_not_isBlank begins, List.flatMap_nil]
  · rw [laterWordPattern, Pattern.ways_sequence, List.flatMap_assoc,
      Pattern.flatMap_repeatedOnce_character nonempty areBlank begins
        (flatMap_ways_numberWordPattern_of_blank fails),
      flatMap_ways_numberWordPattern_of_none fails (noNumber.resolve_left nonempty)]

end GivingUp

/-! ### Where a run ends -/

/-- The places at which a run can end, from one behind a number word on. -/
def runEnds (count : Nat) (place : Place) : List Place :=
  (Pattern.repeatedWays laterWordPattern.ways count place).flatMap Pattern.boundary.ways

theorem runEnds_succ (count : Nat) (place : Place) :
    runEnds (count + 1) place =
      (laterWordPattern.ways place).flatMap (runEnds count) ++ Pattern.boundary.ways place := by
  rw [runEnds, Pattern.repeatedWays, List.flatMap_append, List.flatMap_assoc,
    List.flatMap_singleton]
  rfl

/-- No run ends inside of a word. -/
theorem runEnds_of_isInsideWord (count : Nat) (place : Place) (inside : place.isInsideWord) :
    runEnds count place = [] := by
  have isDead := Pattern.ways_boundary_of_isInsideWord inside
  cases count with
  | zero => rw [runEnds, Pattern.repeatedWays, List.flatMap_singleton, isDead]
  | succ count =>
    have begins : ∀ next ∈ place.behind.head?, ¬isBlank next := by
      intro next isNext isBlank
      obtain ⟨_, isWord⟩ := Bool.and_eq_true_iff.mp inside
      rw [Option.mem_def.mp isNext] at isWord
      exact Fragment.not_isWordCharacter_of_isBlank isBlank isWord
    rw [runEnds_succ, isDead, ways_laterWordPattern_of_not_isBlank begins place.before]
    rfl

/-- A run behind a gap is one that the word in front of the gap joins, and there is no other. -/
theorem not_runFollows_stretchesOf {blanks rest : Text}
    (areBlank : ∀ character ∈ blanks, isBlank character)
    (begins : ∀ next ∈ rest.head?, ¬isBlank next)
    (noNumber : blanks = [] ∨ ∀ first ∈ (fragments rest).head?, first.number? = none) :
    ¬Stretch.RunFollows (stretchesOf (fragments (blanks ++ rest))) := by
  rintro ⟨gap, source, spoken, after, follows⟩
  by_cases nonempty : blanks = []
  · have isGap := kind_head?_stretchesOf (fragments rest)
    rw [nonempty, List.nil_append] at follows
    rw [follows, kind_head?_fragments, List.head?_cons, Option.map_some] at isGap
    obtain ⟨first, isFirst, isKind⟩ := Option.map_eq_some_iff.mp isGap.symm
    exact begins first isFirst (Fragment.kindOf_eq_gap_iff.mp isKind)
  · rw [fragments_gap_append nonempty areBlank begins] at follows
    have isRest : stretchesOf (fragments rest) = .run source spoken :: after :=
      (List.cons_eq_cons.mp follows).2
    exact not_run_of_number?_none (noNumber.resolve_left nonempty) source spoken after isRest

/-- Whether a run goes on with more of the text behind its first word, whichever word that is. -/
structure RunGoesOn (behind more rest : Text) : Prop where
  split : behind = more ++ rest
  ends : ∀ next ∈ rest.head?, ¬isWordCharacter next
  isRun : ∀ word : NumberWord, ∃ spoken, stretchesOf (fragments (word.spelling ++ behind)) =
    .run (word.spelling ++ more) spoken :: stretchesOf (fragments rest)

/-- A run is over if no other follows behind a gap. -/
theorem runGoesOn_nil {behind : Text} (ends : ∀ next ∈ behind.head?, ¬isWordCharacter next)
    (noRun : ¬Stretch.RunFollows (stretchesOf (fragments behind))) : RunGoesOn behind [] behind := by
  refine ⟨rfl, ends, fun word => ⟨[word], ?_⟩⟩
  rw [fragments_spelling_append word ends, List.append_nil]
  exact Stretch.prepend_of_not_runFollows (number?_spelling word) noRun

/-- A run goes on with a word behind blanks, and as it goes on behind that word. -/
theorem RunGoesOn.gap {blanks after more rest : Text} (nonempty : blanks ≠ [])
    (areBlank : ∀ character ∈ blanks, isBlank character) (word : NumberWord)
    (goesOn : RunGoesOn after more rest) :
    RunGoesOn (blanks ++ (word.spelling ++ after)) (blanks ++ word.spelling ++ more) rest := by
  refine ⟨?_, goesOn.ends, fun first => ?_⟩
  · rw [goesOn.split]
    simp only [List.append_assoc]
  · obtain ⟨spoken, isRun⟩ := goesOn.isRun word
    refine ⟨first :: spoken, ?_⟩
    rw [stretchesOf_fragments_spelling_append first nonempty areBlank isRun]
    simp only [List.append_assoc]

/-- The first way to go on behind a number word is the one that its run goes on with. -/
theorem exists_head?_runEnds {count : Nat} {before behind : Text} (enough : behind.length ≤ count)
    (last : before.getLast?.any isWordCharacter)
    (ends : ∀ next ∈ behind.head?, ¬isWordCharacter next) :
    ∃ more rest, RunGoesOn behind more rest ∧
      (runEnds count ⟨before, behind⟩).head? = some ⟨before ++ more, rest⟩ := by
  have isBoundary := Pattern.ways_boundary_of_ends last ends
  induction count generalizing before behind with
  | zero =>
    obtain rfl := List.length_eq_zero_iff.mp (Nat.le_zero.mp enough)
    refine ⟨[], [], runGoesOn_nil nofun nofun, ?_⟩
    rw [runEnds, Pattern.repeatedWays, List.flatMap_singleton, isBoundary, List.append_nil]
    rfl
  | succ count ih =>
    obtain ⟨blanks, rest, rfl, areBlank, begins⟩ := exists_blanks_append behind
    -- Only a whole word behind blanks is gone on with; all other ways are given up.
    by_cases joins : blanks ≠ [] ∧ ∃ (word : NumberWord) (after : Text),
        rest = word.spelling ++ after ∧ ∀ next ∈ after.head?, ¬isWordCharacter next
    · obtain ⟨nonempty, word, after, rfl, afterEnds⟩ := joins
      have shorter : after.length ≤ count := by
        have := List.length_pos_iff.mpr nonempty
        simp only [List.length_append] at enough
        omega
      have lastOfWord := any_getLast?_append_spelling (before ++ blanks) word
      obtain ⟨more, rest, goesOn, isFirst⟩ := ih shorter lastOfWord afterEnds
        (Pattern.ways_boundary_of_ends lastOfWord afterEnds)
      refine ⟨blanks ++ word.spelling ++ more, rest, goesOn.gap nonempty areBlank word, ?_⟩
      rw [runEnds_succ, flatMap_ways_laterWordPattern (runEnds_of_isInsideWord count) nonempty
        areBlank word afterEnds, List.head?_append, isFirst, Option.some_or]
      simp only [List.append_assoc]
    · have noNumber : blanks = [] ∨ ∀ first ∈ (fragments rest).head?, first.number? = none := by
        refine or_iff_not_imp_left.mpr fun nonempty => ?_
        exact (exists_spelling_append_or rest).resolve_left fun word => joins ⟨nonempty, word⟩
      refine ⟨[], blanks ++ rest,
        runGoesOn_nil ends (not_runFollows_stretchesOf areBlank begins noNumber), ?_⟩
      rw [runEnds_succ, flatMap_ways_laterWordPattern_of_none (runEnds_of_isInsideWord count)
        areBlank begins noNumber, isBoundary, List.append_nil]
      rfl

/-! ### What the pattern finds -/

/-- Behind a boundary the pattern goes on as a run does. -/
theorem ways_numberRunPattern (place : Place) :
    numberRunPattern.ways place =
      (Pattern.boundary.ways place).flatMap fun place =>
        (numberWordPattern.ways place).flatMap fun place => runEnds place.behind.length place :=
  rfl

/-- Nothing is found inside of a word, nor where no whole number word begins. -/
theorem ways_numberRunPattern_eq_nil {place : Place}
    (none : place.isInsideWord ∨ ∀ first ∈ (fragments place.behind).head?, first.number? = none) :
    numberRunPattern.ways place = [] := by
  rw [ways_numberRunPattern]
  rcases none with inside | noNumber
  · rw [Pattern.ways_boundary_of_isInsideWord inside, List.flatMap_nil]
  · refine List.flatMap_eq_nil_iff.mpr fun other isHere => ?_
    rw [Pattern.eq_of_mem_ways_boundary isHere]
    exact flatMap_ways_numberWordPattern_of_none (fun place => runEnds_of_isInsideWord _ place)
      noNumber place.before

/-- The parts that a stretch is: a run is found, other characters are passed. -/
def Stretch.parts : Stretch → List Pattern.Part
  | run source _ => [.found source]
  | plain fragment => fragment.text.map .passed

/-- Where a whole number word begins, the run that it begins is found. -/
theorem parts_numberRunPattern_spelling (word : NumberWord) {before rest : Text}
    (apart : ¬Place.isInsideWord ⟨before, word.spelling ++ rest⟩)
    (ends : ∀ next ∈ rest.head?, ¬isWordCharacter next) :
    ∃ source spoken after, word.spelling ++ rest = source ++ after ∧ source ≠ [] ∧
      (∀ next ∈ after.head?, ¬isWordCharacter next) ∧
        stretchesOf (fragments (source ++ after)) =
          .run source spoken :: stretchesOf (fragments after) ∧
            numberRunPattern.parts before (source ++ after) =
              .found source :: numberRunPattern.parts (before ++ source) after := by
  have solid := isSolid_spelling word
  obtain ⟨more, after, ⟨rfl, afterEnds, isRun⟩, isFirst⟩ := exists_head?_runEnds (Nat.le_refl _)
    (any_getLast?_append_spelling before word) ends
  obtain ⟨spoken, isRun⟩ := isRun word
  have nonempty : word.spelling ++ more ≠ [] := List.append_ne_nil_of_left_ne_nil solid.nonempty _
  have next : (word.spelling ++ (more ++ after)).head?.any isWordCharacter := by
    obtain ⟨first, others, split⟩ := List.exists_cons_of_ne_nil solid.nonempty
    rw [split]
    exact solid.areWord first (split ▸ List.mem_cons_self)
  have isFirst : (numberRunPattern.ways ⟨before, word.spelling ++ more ++ after⟩).head? =
      some ⟨before ++ (word.spelling ++ more), after⟩ := by
    rw [List.append_assoc, ways_numberRunPattern, Pattern.ways_boundary_of_begins apart next,
      List.flatMap_singleton, flatMap_ways_numberWordPattern
        (fun place => runEnds_of_isInsideWord _ place) word ends, isFirst, List.append_assoc]
  refine ⟨word.spelling ++ more, spoken, after, (List.append_assoc ..).symm, nonempty, afterEnds,
    ?_, Pattern.parts_of_head? nonempty isFirst⟩
  rw [List.append_assoc]
  exact isRun

/-- A fragment that is no number word is passed. -/
theorem parts_numberRunPattern_of_number?_none (before : Text) {behind : Text} {first : Fragment}
    {others : List Fragment} (isCut : fragments behind = first :: others)
    (noNumber : first.number? = none) :
    numberRunPattern.parts before behind = first.text.map .passed ++
        numberRunPattern.parts (before ++ first.text) (others.flatMap Fragment.text) ∧
      ¬Place.isInsideWord ⟨before ++ first.text, others.flatMap Fragment.text⟩ := by
  have maximal := fragments_areMaximal behind
  have isText := flatMap_text_fragments behind
  rw [isCut] at maximal isText
  rw [List.flatMap_cons] at isText
  obtain ⟨proper, stays, restMaximal⟩ := areMaximal_cons_iff.mp maximal
  have isKind {character : Char} (member : character ∈ first.text)
      (isWord : isWordCharacter character) : first.kind = .word :=
    (proper.uniform character member).symm.trans (Fragment.kindOf_eq_word_iff.mpr isWord)
  constructor
  · conv_lhs => rw [← isText]
    refine Pattern.parts_append fun front next rest split => ways_numberRunPattern_eq_nil ?_
    by_cases isWord : isWordCharacter next
    · have firstKind := isKind (by simp [split]) isWord
      rcases List.eq_nil_or_concat' front with rfl | ⟨init, last, rfl⟩
      · right
        have isBehind : next :: (rest ++ others.flatMap Fragment.text) = behind := by
          rw [← isText, split]
          rfl
        rw [isBehind, isCut]
        exact fun other same => Option.some.inj same ▸ noNumber
      · have isLast : isWordCharacter last :=
          Fragment.kindOf_eq_word_iff.mp ((proper.uniform last (by simp [split])).trans firstKind)
        left
        refine Place.isInsideWord_of_any ?_ isWord
        rw [← List.append_assoc, List.getLast?_concat]
        exact isLast
    · exact .inr (number?_of_not_isWordCharacter fun other same => Option.some.inj same ▸ isWord)
  · intro inside
    obtain ⟨isLast, isNext⟩ := Bool.and_eq_true_iff.mp inside
    obtain ⟨init, last, split⟩ :=
      (List.eq_nil_or_concat' first.text).resolve_left proper.nonempty
    rw [split, ← List.append_assoc, List.getLast?_concat] at isLast
    have firstKind := isKind (by simp [split]) isLast
    obtain ⟨next, isHead, isWord⟩ := (Option.any_eq_true ..).mp isNext
    have sameKind := kind_head?_fragments (others.flatMap Fragment.text)
    rw [fragments_flatMap_text restMaximal, isHead, Option.map_some,
      Fragment.kindOf_eq_word_iff.mpr isWord] at sameKind
    obtain ⟨second, isSecond, secondKind⟩ := Option.map_eq_some_iff.mp sameKind
    have isMark := stays second isSecond (firstKind.trans secondKind.symm)
    rw [firstKind] at isMark
    cases isMark

/-- The pattern finds the runs among the stretches of a text, and passes the rest. -/
theorem parts_numberRunPattern {before behind : Text}
    (apart : ¬Place.isInsideWord ⟨before, behind⟩) :
    numberRunPattern.parts before behind =
      (stretchesOf (fragments behind)).flatMap Stretch.parts := by
  -- A run takes several fragments at once, so the induction is on what is left of the text.
  induction isLength : behind.length using Nat.strong_induction_on generalizing before behind with
  | h length ih =>
    rcases exists_spelling_append_or behind with ⟨word, rest, rfl, ends⟩ | noNumber
    · obtain ⟨source, spoken, after, split, nonempty, afterEnds, isRun, isFound⟩ :=
        parts_numberRunPattern_spelling word apart ends
      have shorter : after.length < length := by
        have := List.length_pos_iff.mpr nonempty
        rw [← isLength, split, List.length_append]
        omega
      have afterApart : ¬Place.isInsideWord ⟨before ++ source, after⟩ := fun inside =>
        not_any_head?_iff.mpr afterEnds (Bool.and_eq_true_iff.mp inside).2
      rw [split, isFound, isRun, ih _ shorter afterApart rfl]
      rfl
    · cases isCut : fragments behind with
      | nil =>
        have isText := flatMap_text_fragments behind
        rw [isCut] at isText
        obtain rfl : [] = behind := isText
        rw [Pattern.parts]
        rfl
      | cons first others =>
        have maximal := fragments_areMaximal behind
        have isText := flatMap_text_fragments behind
        rw [isCut] at maximal isText noNumber
        obtain ⟨proper, _, restMaximal⟩ := areMaximal_cons_iff.mp maximal
        obtain ⟨isPassed, stillApart⟩ :=
          parts_numberRunPattern_of_number?_none before isCut (noNumber first rfl)
        have shorter : (others.flatMap Fragment.text).length < length := by
          have := List.length_pos_iff.mpr proper.nonempty
          rw [← isLength, ← isText, List.flatMap_cons, List.length_append]
          omega
        have isPlain : stretchesOf (first :: others) = .plain first :: stretchesOf others :=
          Stretch.prepend_of_number?_none (noNumber first rfl) _
        rw [isPassed, ih _ shorter stillApart rfl, fragments_flatMap_text restMaximal, isPlain]
        rfl

example : numberRunPattern.parts [] "six\tsixty sixths".toList =
    .found "six\tsixty".toList :: " sixths".toList.map .passed := by
  rw [parts_numberRunPattern (by decide)]
  decide +kernel

end RadioCall
