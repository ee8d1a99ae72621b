/-
This file shows that writing the numbers of a text in digits a second time changes nothing.
The number words that are left the first time are those of numbers that begin with scales.
Such a number is no single digit, so nothing before it has a say in how the words after it
are grouped: without the numbers that were written in digits around them, the words that
are left fall into the same numbers again, and these are kept in words again.
-/

import RadioCall.Proofs.Number.Sentence

namespace RadioCall

namespace Cardinal

/-! ### Numbers kept in words -/

/-- A number that begins with a scale is no single digit. -/
theorem isSingleUnit_eq_false_of_bare {group : Cardinal} (bare : isBareScale group.reverse) :
    isSingleUnit group = false := by
  match group, bare with
  | [word], bare =>
    by_contra isUnit
    rw [isSingleUnit, Bool.not_eq_false] at isUnit
    exact not_isScale_of_isUnit isUnit bare
  | first :: second :: rest, _ => rfl

/-- Behind a number that is no single digit, the numbers before it do not count. -/
theorem joins_of_not_isSingleUnit {last : Cardinal} (several : isSingleUnit last = false)
    (before others : List Cardinal) (word : NumberWord) :
    joins (last :: before) word = joins (last :: others) word := by
  cases last with
  | nil => rfl
  | cons previous rest => rw [joins, joins, several, Bool.false_and, Bool.false_and]

/-- Behind numbers that begin with scales, a word is added without regard to the numbers
before them. -/
theorem add_append_of_bare {front : List Cardinal} (nonempty : front ≠ [])
    (bare : ∀ group ∈ front, isBareScale group.reverse) (earlier : List Cardinal)
    (word : NumberWord) : add (front ++ earlier) word = add front word ++ earlier := by
  obtain ⟨last, before, rfl⟩ := List.exists_cons_of_ne_nil nonempty
  have several := isSingleUnit_eq_false_of_bare (bare last List.mem_cons_self)
  rw [List.cons_append, add, add, joins_of_not_isSingleUnit several _ before]
  split
  · rfl
  · rfl

/-- What a number begins with does not change when a word is added to it. -/
theorem isBareScale_of_append_singleton {front : Cardinal} (nonempty : front ≠ [])
    {word : NumberWord} (bare : isBareScale (front ++ [word])) : front.isBareScale := by
  obtain ⟨first, others, rfl⟩ := List.exists_cons_of_ne_nil nonempty
  exact bare

/-- If the latest numbers begin with scales once a word is added, so did those before, and
the word is added to these alone in the same way. -/
theorem exists_front_of_add {stack earlier block : List Cardinal} {group : Cardinal}
    {word : NumberWord} (nonempty : ∀ group ∈ stack, group ≠ [])
    (added : add stack word = group :: (block ++ earlier))
    (bare : ∀ other ∈ group :: block, isBareScale other.reverse) :
    ∃ front, stack = front ++ earlier ∧ (∀ other ∈ front, isBareScale other.reverse) ∧
      spokenWords (group :: block) = spokenWords front ++ [word] ∧
        add front word = group :: block := by
  obtain ⟨bareGroup, bareBlock⟩ := List.forall_mem_cons.mp bare
  rcases add_cases stack word with ⟨last, before, rfl, _, isAdded⟩ | ⟨_, isAdded⟩
  · obtain ⟨rfl, rfl⟩ := List.cons_eq_cons.mp (isAdded.symm.trans added)
    have someWord : last.reverse ≠ [] := fun isNil =>
      nonempty last List.mem_cons_self (List.reverse_eq_nil_iff.mp isNil)
    rw [List.reverse_cons] at bareGroup
    have bareFront : ∀ other ∈ last :: block, isBareScale other.reverse :=
      List.forall_mem_cons.mpr ⟨isBareScale_of_append_singleton someWord bareGroup, bareBlock⟩
    refine ⟨last :: block, rfl, bareFront, by simp [spokenWords], ?_⟩
    have isFront := add_append_of_bare (List.cons_ne_nil _ _) bareFront earlier word
    exact List.append_cancel_right (isFront.symm.trans added)
  · obtain ⟨rfl, rfl⟩ := List.cons_eq_cons.mp (isAdded.symm.trans added)
    refine ⟨block, rfl, bareBlock, by simp [spokenWords], ?_⟩
    by_cases isFirst : block = []
    · rw [isFirst]
      rfl
    · have isFront := add_append_of_bare isFirst bareBlock earlier word
      exact List.append_cancel_right (isFront.symm.trans added)

/-- Numbers in a row that all begin with scales are divided alike without the words around
them. -/
theorem foldl_add_of_bare {spoken : List NumberWord} {later block earlier : List Cardinal}
    (divided : spoken.foldl add [] = later ++ (block ++ earlier))
    (bare : ∀ group ∈ block, isBareScale group.reverse) :
    (spokenWords block).foldl add [] = block := by
  induction spoken using List.reverseRecOn generalizing later block with
  | nil =>
    obtain ⟨_, others⟩ := List.append_eq_nil_iff.mp divided.symm
    rw [(List.append_eq_nil_iff.mp others).1]
    rfl
  | append_singleton spoken word ih =>
    rw [List.foldl_append, List.foldl_cons, List.foldl_nil] at divided
    cases later with
    | cons group later =>
      -- The last word is behind the block, which was divided before it was said.
      obtain ⟨others, isStack⟩ :
          ∃ others, spoken.foldl add [] = others ++ (block ++ earlier) := by
        rcases add_cases (spoken.foldl add []) word with
          ⟨last, before, isStack, _, isAdded⟩ | ⟨_, isAdded⟩
        · rw [isAdded] at divided
          rw [isStack, (List.cons_eq_cons.mp divided).2]
          exact ⟨last :: later, rfl⟩
        · rw [isAdded] at divided
          exact ⟨later, (List.cons_eq_cons.mp divided).2⟩
      exact ih isStack bare
    | nil =>
      cases block with
      | nil => rfl
      | cons group block =>
        have nonempty : ∀ other ∈ spoken.foldl add [], other ≠ [] := fun _ member =>
          ne_nil_of_mem_foldl_add member
        obtain ⟨front, isStack, bareFront, isWords, isAdded⟩ :=
          exists_front_of_add nonempty divided bare
        rw [isWords, List.foldl_append, @ih [] front isStack bareFront]
        exact isAdded

/-- Numbers of a run that stand in a row and all begin with scales are what their words are
divided into. -/
theorem divide_flatten_of_bare {spoken : List NumberWord} {block : List Cardinal}
    (inRun : block <:+: divide spoken) (bare : ∀ cardinal ∈ block, cardinal.isBareScale) :
    divide block.flatten = block := by
  obtain ⟨before, after, divided⟩ := inRun
  have reversed (groups : List Cardinal) :
      ((groups.map List.reverse).reverse.map List.reverse).reverse = groups := by
    simp [List.map_reverse]
  have isStack : spoken.foldl add [] = (after.map List.reverse).reverse ++
      ((block.map List.reverse).reverse ++ (before.map List.reverse).reverse) := by
    have same := congrArg (fun groups => (groups.map List.reverse).reverse) divided
    simp only [divide, List.map_append, List.reverse_append] at same
    rw [List.map_reverse, List.reverse_reverse, List.map_map] at same
    simpa using same.symm
  have isBlock := foldl_add_of_bare isStack fun group member => by
    obtain ⟨cardinal, inBlock, rfl⟩ := List.mem_map.mp (List.mem_reverse.mp member)
    rw [List.reverse_reverse]
    exact bare cardinal inBlock
  rw [spokenWords, reversed] at isBlock
  rw [divide, isBlock, reversed]

/-- Such numbers are written as they were spoken. -/
theorem writtenRun_flatten_of_bare {spoken : List NumberWord} {block : List Cardinal}
    (inRun : block <:+: divide spoken) (bare : ∀ cardinal ∈ block, cardinal.isBareScale) :
    writtenRun block.flatten = .ok (sentence (block.flatten.map NumberWord.spelling)) := by
  have divided := divide_flatten_of_bare inRun bare
  refine writtenRun_eq_ok_iff.mpr ⟨fun cardinal member tooLong => ?_, ?_⟩
  · rw [divided] at member
    exact tooLong.1 (bare cardinal member)
  · rw [runWords, divided, flatMap_writtenWords_bare bare]

/-! ### Runs that are left -/

/-- Whether number words are those of numbers in a row that all begin with scales. -/
def AreBare (block : List Cardinal) (spoken : List NumberWord) : Prop :=
  (∀ cardinal ∈ block, cardinal.isBareScale) ∧ spoken = block.flatten

/-- Whether the runs of a text are numbers in a row that were kept in words, and a run at its
beginning the first of the numbers. -/
structure RunsAreKept (groups : List Cardinal) (stretches : List Stretch) : Prop where
  within : ∀ source spoken, .run source spoken ∈ stretches →
    ∃ block, block <:+: groups ∧ AreBare block spoken
  first : ∀ source spoken after, stretches = .run source spoken :: after →
    ∃ block, block <+: groups ∧ AreBare block spoken

theorem runsAreKept_cons_plain {groups : List Cardinal} {following : List Stretch}
    (within : ∀ source spoken, .run source spoken ∈ following →
      ∃ block, block <:+: groups ∧ AreBare block spoken) (fragment : Fragment) :
    RunsAreKept groups (.plain fragment :: following) where
  within := by
    intro source spoken member
    rcases List.mem_cons.mp member with same | member
    · cases same
    · exact within source spoken member
  first := by
    intro source spoken after same
    cases (List.cons_eq_cons.mp same).1

/-- A number that begins with a scale is one run with the numbers after it that do so too. -/
theorem runsAreKept_cons_run {group : Cardinal} {rest block : List Cardinal}
    (bare : group.isBareScale) (isPrefix : block <+: rest)
    (bareBlock : ∀ cardinal ∈ block, cardinal.isBareScale) {after : List Stretch}
    (within : ∀ source spoken, .run source spoken ∈ after →
      ∃ block, block <:+: group :: rest ∧ AreBare block spoken) (source : Text) :
    RunsAreKept (group :: rest) (.run source (group ++ block.flatten) :: after) := by
  have isFirst : group :: block <+: group :: rest := List.cons_prefix_cons.mpr ⟨rfl, isPrefix⟩
  have areBare : AreBare (group :: block) (group ++ block.flatten) :=
    ⟨List.forall_mem_cons.mpr ⟨bare, bareBlock⟩, rfl⟩
  constructor
  · intro source spoken member
    rcases List.mem_cons.mp member with same | member
    · obtain ⟨_, rfl⟩ := Stretch.run.inj same
      exact ⟨_, isFirst.isInfix, areBare⟩
    · exact within source spoken member
  · intro source spoken after same
    obtain ⟨_, rfl⟩ := Stretch.run.inj (List.cons_eq_cons.mp same).1
    exact ⟨_, isFirst, areBare⟩

theorem isSolid_of_mem_flatMap_writtenWords {groups : List Cardinal} {word : Text}
    (member : word ∈ groups.flatMap writtenWords) : IsSolid word := by
  obtain ⟨cardinal, _, inCardinal⟩ := List.mem_flatMap.mp member
  exact isSolid_of_mem_writtenWords inCardinal

/-- Where numbers are written one after the other, the runs that are left are those of
numbers in a row that were kept in words. -/
theorem runsAreKept_of_written {groups : List Cardinal}
    (nonempty : ∀ group ∈ groups, group ≠ []) :
    RunsAreKept groups (stretchesOf (fragments (sentence (groups.flatMap writtenWords)))) := by
  induction groups with
  | nil => exact ⟨nofun, nofun⟩
  | cons group rest ih =>
    obtain ⟨someWord, someRest⟩ := List.forall_mem_cons.mp nonempty
    have kept := ih someRest
    obtain ⟨following, split, isFollowing⟩ := exists_fragments_sentence_append
      (writtenWords_ne_nil someWord) (fun _ => isSolid_of_mem_writtenWords)
      fun _ => @isSolid_of_mem_flatMap_writtenWords rest _
    have within : ∀ source spoken, .run source spoken ∈ stretchesOf following →
        ∃ block, block <:+: group :: rest ∧ AreBare block spoken := by
      intro source spoken member
      rcases isFollowing with rfl | rfl
      · cases member
      · rcases List.mem_cons.mp member with same | member
        · cases same
        · obtain ⟨block, isInfix, bare⟩ := kept.within source spoken member
          exact ⟨block, List.infix_cons isInfix, bare⟩
    rw [List.flatMap_cons, split]
    by_cases bare : group.isBareScale
    · have isWords : group.writtenWords = group.map NumberWord.spelling := if_pos bare
      rw [isWords]
      by_cases follows : Stretch.RunFollows (stretchesOf following)
      · obtain ⟨blanks, source, others, after, isGap⟩ := follows
        obtain ⟨block, isPrefix, bareBlock, rfl⟩ :
            ∃ block, block <+: rest ∧ AreBare block others := by
          rcases isFollowing with rfl | rfl
          · cases isGap
          · exact kept.first source others after (List.cons_eq_cons.mp isGap).2
        obtain ⟨joined, isJoined⟩ := stretchesOf_spelling_append someWord fun number =>
          ⟨_, isGap ▸ Stretch.prepend_joined (number?_spelling number) _ _ _ _⟩
        rw [isJoined]
        refine runsAreKept_cons_run bare isPrefix bareBlock (fun source spoken member => ?_) joined
        refine within source spoken ?_
        rw [isGap]
        exact List.mem_cons_of_mem _ (List.mem_cons_of_mem _ member)
      · obtain ⟨alone, isAlone⟩ := stretchesOf_spelling_append someWord fun number =>
          ⟨_, Stretch.prepend_of_not_runFollows (number?_spelling number) follows⟩
        rw [isAlone]
        exact runsAreKept_cons_run bare List.nil_prefix (List.forall_mem_nil _) within alone
    · have isWords : group.writtenWords = [decimal group.value] := if_neg bare
      have notNumber : (Fragment.word (decimal group.value)).number? = none :=
        ofText?_of_isNumeral (isNumeral_decimal group.value)
      rw [isWords, sentence_singleton, fragments_of_wordCharacters
        (isSolid_decimal group.value).nonempty (isSolid_decimal group.value).areWord,
        List.singleton_append]
      have isPlain : stretchesOf (.word (decimal group.value) :: following) =
          .plain (.word (decimal group.value)) :: stretchesOf following :=
        Stretch.prepend_of_number?_none notNumber _
      rw [isPlain]
      exact runsAreKept_cons_plain within _

end Cardinal

/-! ### Runs of the result -/

/-- Whether a stretch could be one of a text: proper, and a number word only as a run. -/
structure Stretch.IsGenuine (stretch : Stretch) : Prop where
  proper : stretch.IsProper
  notNumber : ∀ fragment, stretch = .plain fragment → fragment.number? = none

theorem isGenuine_of_mem_stretchesOf {fragments : List Fragment} (maximal : AreMaximal fragments)
    {stretch : Stretch} (member : stretch ∈ stretchesOf fragments) : stretch.IsGenuine where
  proper := isProper_of_mem_stretchesOf maximal member
  notNumber := by
    rintro fragment rfl
    exact (mem_of_plain_mem_stretchesOf member).2

theorem Stretch.IsGenuine.stretchesOf_cons {fragment : Fragment}
    (genuine : IsGenuine (.plain fragment)) (rest : List Fragment) :
    stretchesOf (fragment :: rest) = .plain fragment :: stretchesOf rest :=
  prepend_of_number?_none (genuine.notNumber fragment rfl) _

/-- What a run is written with has only runs in it that are written as they stand. -/
theorem Stretch.IsGenuine.written_of_mem_pieces {stretch part : Stretch}
    (genuine : stretch.IsGenuine) (member : part ∈ stretchesOf stretch.pieces) :
    part.written = .ok part.text := by
  cases part with
  | plain fragment => rfl
  | run source others =>
    cases stretch with
    | plain fragment =>
      rw [pieces, genuine.stretchesOf_cons] at member
      cases List.mem_singleton.mp member
    | run original spoken =>
      have single : ∀ blanks, .gap blanks ∈ fragments (sentence (Cardinal.runWords spoken)) →
          blanks = [' '] := by
        intro blanks inRun
        rcases mem_fragments_sentence (fun _ => isSolid_of_mem_runWords) inRun with
          same | ⟨word, _, same⟩
        · exact Fragment.gap.inj same
        · cases same
      obtain ⟨isSource, _⟩ := source_eq_sentence_of_mem_run single member
      obtain ⟨block, isInfix, bare, rfl⟩ :=
        (Cardinal.runsAreKept_of_written fun _ => Cardinal.ne_nil_of_mem_divide).within
          source others member
      rw [Stretch.text, isSource]
      exact Cardinal.writtenRun_flatten_of_bare isInfix bare

/-- The result begins with the kind of the stretch that is written first. -/
theorem kind_of_stretchesOf_pieces {stretch next : Stretch} (proper : stretch.IsProper)
    {others after : List Stretch} (begins : stretchesOf stretch.pieces ++ others = next :: after) :
    next.kind = stretch.kind := by
  obtain ⟨first, more, isPieces⟩ := List.exists_cons_of_ne_nil proper.pieces_ne_nil
  have isKind := kind_head?_stretchesOf stretch.pieces
  rw [isPieces, List.head?_cons, Option.map_some,
    stretch.kind_pieces.1 first (isPieces ▸ rfl), ← isPieces] at isKind
  cases isStretches : stretchesOf stretch.pieces with
  | nil =>
    rw [isStretches] at isKind
    cases isKind
  | cons head tail =>
    rw [isStretches] at begins isKind
    rw [← (List.cons_eq_cons.mp begins).1]
    exact Option.some.inj isKind

/-- No run stands behind a gap at the beginning of the result unless one stood there before. -/
theorem not_runFollows_flatMap {stretches : List Stretch}
    (genuine : ∀ stretch ∈ stretches, stretch.IsGenuine) (noRun : ¬Stretch.RunFollows stretches) :
    ¬Stretch.RunFollows (stretches.flatMap fun stretch => stretchesOf stretch.pieces) := by
  rintro ⟨blanks, source, spoken, after, begins⟩
  cases stretches with
  | nil => cases begins
  | cons first rest =>
    obtain ⟨isGenuine, genuineRest⟩ := List.forall_mem_cons.mp genuine
    cases first with
    | run original words => cases kind_of_stretchesOf_pieces isGenuine.proper begins
    | plain fragment =>
      rw [List.flatMap_cons, Stretch.pieces, isGenuine.stretchesOf_cons] at begins
      obtain ⟨isGap, begins⟩ := List.cons_eq_cons.mp begins
      cases rest with
      | nil => cases begins
      | cons second others =>
        have isNext := (List.forall_mem_cons.mp genuineRest).1
        cases second with
        | run original words =>
          exact noRun ⟨blanks, original, words, others, congrArg (· :: _) isGap⟩
        | plain next =>
          rw [List.flatMap_cons, Stretch.pieces, isNext.stretchesOf_cons] at begins
          cases (List.cons_eq_cons.mp begins).1

/-- The stretches of the result are those of what each stretch is written as. -/
theorem stretchesOf_flatMap_pieces {stretches : List Stretch}
    (genuine : ∀ stretch ∈ stretches, stretch.IsGenuine) (divided : Stretch.AreDivided stretches) :
    stretchesOf (stretches.flatMap Stretch.pieces) =
      stretches.flatMap fun stretch => stretchesOf stretch.pieces := by
  induction stretches with
  | nil => rfl
  | cons stretch rest ih =>
    obtain ⟨isGenuine, genuineRest⟩ := List.forall_mem_cons.mp genuine
    rw [List.flatMap_cons, List.flatMap_cons]
    cases stretch with
    | plain fragment =>
      rw [← ih genuineRest divided]
      show stretchesOf (fragment :: _) = stretchesOf [fragment] ++ _
      rw [isGenuine.stretchesOf_cons, isGenuine.stretchesOf_cons]
      rfl
    | run source spoken =>
      obtain ⟨noRun, dividedRest⟩ := divided
      have isRest := ih genuineRest dividedRest
      have notGap : ∀ last ∈ (Stretch.run source spoken).pieces.getLast?, last.kind ≠ .gap := by
        intro last atEnd
        rw [(Stretch.run source spoken).kind_pieces.2 last atEnd]
        exact nofun
      have stillNoRun := not_runFollows_flatMap genuineRest noRun
      rw [← isRest] at stillNoRun
      rw [stretchesOf_append_apart notGap (.inr stillNoRun), isRest]

/-- Once the numbers of a text are written in digits, no number is left to write. -/
theorem expandNumbers_of_expandNumbers {text result : Text}
    (expanded : expandNumbers text = .ok result) : expandNumbers result = .ok result := by
  have maximal := fragments_areMaximal text
  have genuine : ∀ stretch ∈ stretchesOf (fragments text), stretch.IsGenuine :=
    fun _ member => isGenuine_of_mem_stretchesOf maximal member
  have isCut := fragments_of_writes maximal (expandNumbers_eq_ok_iff.mp expanded)
  have isResult : (stretchesOf (fragments result)).flatMap Stretch.text = result := by
    rw [flatMap_text_stretchesOf, flatMap_text_fragments]
  have unchanged : ∀ part ∈ stretchesOf (fragments result), part.written = .ok part.text := by
    rw [isCut, stretchesOf_flatMap_pieces genuine (stretchesOf_areDivided _)]
    intro part member
    obtain ⟨stretch, inText, inPieces⟩ := List.mem_flatMap.mp member
    exact (genuine stretch inText).written_of_mem_pieces inPieces
  have writes := writes_text unchanged
  rwa [isResult] at writes

end RadioCall
