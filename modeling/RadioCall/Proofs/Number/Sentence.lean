/-
This file says how sentences of digits and other words are written. Each word stands for
itself, and each digit for its numeral, because digits said one by one are a number each.
Only behind a scale the first digit may stay a word: it completes the number that the scale
begins, and such a number is kept in words.
-/

import RadioCall.Proofs.Number.Single

namespace RadioCall

/-! ### Simple tokens -/

/-- How a token is heard: a digit as its numeral, all else as it stands. -/
def heardAs (token : Text) : Text :=
  match NumberWord.ofText? token with
  | some (.unit digit) => decimal digit.val
  | _ => token

/-- A token that is the word for a digit, or else holds no number word. -/
structure IsSimple (token : Text) : Prop where
  isWord : IsWord token
  digitOrNone : (∃ digit, token = (NumberWord.unit digit).spelling) ∨
    ∀ fragment ∈ fragments token, fragment.number? = none

instance (token : Text) : Decidable (IsSimple token) :=
  decidable_of_iff (IsWord token ∧ ((∃ digit, token = (NumberWord.unit digit).spelling) ∨
      ∀ fragment ∈ fragments token, fragment.number? = none))
    ⟨fun both => ⟨both.1, both.2⟩, fun simple => ⟨simple.isWord, simple.digitOrNone⟩⟩

theorem fragments_spelling (number : NumberWord) :
    fragments number.spelling = [.word number.spelling] :=
  fragments_of_wordCharacters (isSolid_spelling number).nonempty (isSolid_spelling number).areWord

theorem number?_spelling (number : NumberWord) :
    (Fragment.word number.spelling).number? = some number :=
  NumberWord.ofText?_spelling number

theorem heardAs_unit (digit : Fin 10) :
    heardAs (NumberWord.unit digit).spelling = decimal digit.val := by
  rw [heardAs, NumberWord.ofText?_spelling]

theorem heardAs_of_no_number {token : Text}
    (noNumber : ∀ fragment ∈ fragments token, fragment.number? = none) : heardAs token = token := by
  have notWord : NumberWord.ofText? token = none := by
    cases found : NumberWord.ofText? token with
    | none => rfl
    | some number =>
      obtain rfl := NumberWord.eq_spelling_of_ofText? found
      have other := noNumber (.word number.spelling)
        (fragments_spelling number ▸ List.mem_cons_self)
      rw [number?_spelling] at other
      cases other
  rw [heardAs, notWord]

/-- A token is heard as a word. -/
theorem IsSimple.isWord_heardAs {token : Text} (simple : IsSimple token) :
    IsWord (heardAs token) := by
  rcases simple.digitOrNone with ⟨digit, rfl⟩ | noNumber
  · rw [heardAs_unit]
    exact (isSolid_decimal digit.val).isWord
  · rw [heardAs_of_no_number noNumber]
    exact simple.isWord

/-! ### Fragments of sentences -/

/-- A space divides the fragments of a sentence from those of a text that ends with no gap. -/
theorem fragments_append_sentence {text token : Text} (isWord : IsWord token)
    (noGap : ∀ last ∈ text.getLast?, Fragment.kindOf last ≠ .gap) (rest : List Text) :
    fragments (text ++ ' ' :: sentence (token :: rest)) =
      fragments text ++ .gap [' '] :: fragments (sentence (token :: rest)) := by
  refine fragments_append_space noGap fun next isNext => ?_
  rw [sentence_cons, List.head?_append_of_ne_nil _ isWord.nonempty] at isNext
  exact isWord.kindOf_ne_gap (List.mem_of_mem_head? isNext)

theorem IsWord.kindOf_getLast?_ne_gap {word : Text} (isWord : IsWord word) :
    ∀ last ∈ word.getLast?, Fragment.kindOf last ≠ .gap :=
  fun _ isLast => isWord.kindOf_ne_gap (List.mem_of_mem_getLast? isLast)

/-- A sentence begins with the fragments of its first token. -/
theorem exists_fragments_sentence_cons {token : Text} (isWord : IsWord token) {rest : List Text}
    (words : ∀ other ∈ rest, IsWord other) :
    ∃ more, fragments (sentence (token :: rest)) = fragments token ++ more ∧
      (rest ≠ [] → more = .gap [' '] :: fragments (sentence rest)) ∧ (rest = [] → more = []) := by
  cases rest with
  | nil =>
    refine ⟨[], ?_, fun more => absurd rfl more, fun _ => rfl⟩
    rw [sentence_singleton, List.append_nil]
  | cons next others =>
    refine ⟨_, ?_, fun _ => rfl, nofun⟩
    rw [sentence_cons_cons]
    exact fragments_append_sentence (words next List.mem_cons_self)
      isWord.kindOf_getLast?_ne_gap others

/-- The number words in a sentence of simple tokens are digits. -/
theorem isUnit_of_mem_fragments_sentence {tokens : List Text}
    (simple : ∀ token ∈ tokens, IsSimple token) {fragment : Fragment}
    (member : fragment ∈ fragments (sentence tokens)) {number : NumberWord}
    (isNumber : fragment.number? = some number) : number.isUnit := by
  induction tokens with
  | nil => cases member
  | cons token rest ih =>
    obtain ⟨isSimple, simpleRest⟩ := List.forall_mem_cons.mp simple
    obtain ⟨more, split, following, ends⟩ :=
      exists_fragments_sentence_cons isSimple.isWord fun other inRest =>
        (simpleRest other inRest).isWord
    rw [split, List.mem_append] at member
    rcases member with inToken | inMore
    · rcases isSimple.digitOrNone with ⟨digit, rfl⟩ | noNumber
      · rw [fragments_spelling, List.mem_singleton] at inToken
        rw [inToken] at isNumber
        rw [← Option.some.inj ((number?_spelling _).symm.trans isNumber)]
        rfl
      · rw [noNumber fragment inToken] at isNumber
        cases isNumber
    · by_cases isLast : rest = []
      · rw [ends isLast] at inMore
        cases inMore
      · rw [following isLast] at inMore
        rcases List.mem_cons.mp inMore with rfl | later
        · cases isNumber
        · exact ih simpleRest later

theorem isUnit_of_mem_run_sentence {tokens : List Text} (simple : ∀ token ∈ tokens, IsSimple token)
    {source : Text} {spoken : List NumberWord}
    (isRun : .run source spoken ∈ stretchesOf (fragments (sentence tokens))) :
    ∀ number ∈ spoken, number.isUnit := by
  intro number member
  obtain ⟨fragment, inFragments, isNumber⟩ := exists_word_of_mem_run isRun member
  exact isUnit_of_mem_fragments_sentence simple inFragments isNumber

/-- A sentence that begins with a run begins with the word for a digit. -/
theorem unit_of_stretches_begin {token : Text} {rest : List Text} (isSimple : IsSimple token)
    (words : ∀ other ∈ rest, IsWord other) {source : Text} {spoken : List NumberWord}
    {after : List Stretch}
    (begins : stretchesOf (fragments (sentence (token :: rest))) = .run source spoken :: after) :
    ∃ digit digits, token = (NumberWord.unit digit).spelling ∧ spoken = .unit digit :: digits := by
  obtain ⟨more, split, _⟩ := exists_fragments_sentence_cons isSimple.isWord words
  rw [split] at begins
  rcases isSimple.digitOrNone with ⟨digit, rfl⟩ | noNumber
  · have isNumber := number?_spelling (.unit digit)
    rw [fragments_spelling] at begins
    have inFront : Stretch.prepend (.word (NumberWord.unit digit).spelling) (stretchesOf more) =
        .run source spoken :: after := begins
    rcases Stretch.prepend_cases (.word (NumberWord.unit digit).spelling) (stretchesOf more) with
      ⟨other, _⟩ | ⟨number, found, made⟩
    · rw [isNumber] at other
      cases other
    · obtain rfl := Option.some.inj (isNumber.symm.trans found)
      rcases made with ⟨_, _, others, _, _, made⟩ | ⟨_, made⟩
      · rw [made] at inFront
        obtain ⟨_, isSpoken⟩ := Stretch.run.inj (List.cons_eq_cons.mp inFront).1
        exact ⟨digit, others, rfl, isSpoken.symm⟩
      · rw [made] at inFront
        obtain ⟨_, isSpoken⟩ := Stretch.run.inj (List.cons_eq_cons.mp inFront).1
        exact ⟨digit, [], rfl, isSpoken.symm⟩
  · have held := flatMap_text_fragments token
    cases isCut : fragments token with
    | nil =>
      rw [isCut] at held
      exact absurd held.symm isSimple.isWord.nonempty
    | cons first others =>
      have isPlain : Stretch.prepend first (stretchesOf (others ++ more)) =
          .plain first :: stretchesOf (others ++ more) :=
        Stretch.prepend_of_number?_none (noNumber first (isCut ▸ List.mem_cons_self)) _
      rw [isCut] at begins
      have inFront := isPlain.symm.trans begins
      cases (List.cons_eq_cons.mp inFront).1

/-! ### Number words in a row -/

/-- Number words in a row are one run, which takes in what the last of them takes in. -/
theorem stretchesOf_spelling_append {spoken others : List NumberWord} (nonempty : spoken ≠ [])
    {following : List Fragment} {after : List Stretch}
    (meets : ∀ number : NumberWord, ∃ source,
      Stretch.prepend (.word number.spelling) (stretchesOf following) =
        .run source (number :: others) :: after) :
    ∃ source, stretchesOf (fragments (sentence (spoken.map NumberWord.spelling)) ++ following) =
      .run source (spoken ++ others) :: after := by
  induction spoken with
  | nil => exact absurd rfl nonempty
  | cons number rest ih =>
    cases rest with
    | nil =>
      rw [List.map_singleton, sentence_singleton, fragments_spelling]
      exact meets number
    | cons next more =>
      obtain ⟨source, isRun⟩ := ih (List.cons_ne_nil _ _)
      have split := fragments_append_sentence (isSolid_spelling next).isWord
        (isSolid_spelling number).isWord.kindOf_getLast?_ne_gap (more.map NumberWord.spelling)
      refine ⟨number.spelling ++ [' '] ++ source, ?_⟩
      rw [List.map_cons, List.map_cons, sentence_cons_cons, split, fragments_spelling,
        List.append_assoc]
      exact stretchesOf_cons_gap_joined (number?_spelling number) isRun [' ']

/-- Number words in a row are one run. -/
theorem stretchesOf_sentence_spelling {spoken : List NumberWord} (nonempty : spoken ≠ []) :
    ∃ source, stretchesOf (fragments (sentence (spoken.map NumberWord.spelling))) =
      [.run source spoken] := by
  obtain ⟨source, isRun⟩ := @stretchesOf_spelling_append spoken [] nonempty [] []
    fun number => ⟨number.spelling, Stretch.prepend_nil (number?_spelling number)⟩
  rw [List.append_nil, List.append_nil] at isRun
  exact ⟨source, isRun⟩

/-! ### Sentences of simple tokens -/

/-- A simple token on its own is written as it is heard. -/
theorem IsSimple.writes {token : Text} (simple : IsSimple token) :
    Writes (stretchesOf (fragments token)) (heardAs token) := by
  rcases simple.digitOrNone with ⟨digit, rfl⟩ | noNumber
  · have alone : stretchesOf (fragments (NumberWord.unit digit).spelling) =
        [.run (NumberWord.unit digit).spelling [.unit digit]] := by
      rw [fragments_spelling]
      exact Stretch.prepend_nil (number?_spelling _)
    have written : Stretch.written (.run (NumberWord.unit digit).spelling [.unit digit]) =
        .ok (decimal digit.val) := Cardinal.writtenRun_singleton Bool.false_ne_true
    rw [alone, heardAs_unit]
    exact writes_cons_iff.mpr ⟨_, [], written, writes_nil, (List.append_nil _).symm⟩
  · have alone : HoldsNoNumber token := noNumber
    rw [heardAs_of_no_number noNumber]
    exact alone.writes

/-- A digit in front of a run of digits is written in front of it. -/
theorem writes_unit_joined {digit : Fin 10} {spoken : List NumberWord}
    (units : ∀ word ∈ spoken, word.isUnit) (nonempty : spoken ≠ []) {source others : Text}
    {after : List Stretch} {result : Text} (writes : Writes (.run source spoken :: after) result) :
    Writes (.run others (.unit digit :: spoken) :: after) (decimal digit.val ++ ' ' :: result) := by
  obtain ⟨own, back, isOwn, isAfter, rfl⟩ := writes_cons_iff.mp writes
  obtain rfl := Except.ok.inj ((Cardinal.writtenRun_units units).symm.trans isOwn)
  have allUnits : ∀ word ∈ NumberWord.unit digit :: spoken, word.isUnit :=
    List.forall_mem_cons.mpr ⟨rfl, units⟩
  obtain ⟨first, rest, rfl⟩ := List.exists_cons_of_ne_nil nonempty
  refine writes_cons_iff.mpr ⟨_, back, Cardinal.writtenRun_units allUnits, isAfter, ?_⟩
  rw [List.map_cons, List.map_cons, List.map_cons, sentence_cons_cons, List.append_assoc,
    List.cons_append]
  rfl

/-- A sentence of simple tokens is written as they are heard. -/
theorem writes_sentence {tokens : List Text} (simple : ∀ token ∈ tokens, IsSimple token) :
    Writes (stretchesOf (fragments (sentence tokens))) (sentence (tokens.map heardAs)) := by
  induction tokens with
  | nil => exact writes_nil
  | cons token rest ih =>
    obtain ⟨isSimple, simpleRest⟩ := List.forall_mem_cons.mp simple
    cases rest with
    | nil =>
      rw [List.map_singleton, sentence_singleton, sentence_singleton]
      exact isSimple.writes
    | cons next others =>
      have writesRest := ih simpleRest
      have nextIsWord := (simpleRest next List.mem_cons_self).isWord
      have split := fragments_append_sentence nextIsWord
        isSimple.isWord.kindOf_getLast?_ne_gap others
      rw [List.map_cons] at writesRest
      rw [sentence_cons_cons, split, List.map_cons, List.map_cons, sentence_cons_cons]
      by_cases joins : (∃ digit, token = (NumberWord.unit digit).spelling) ∧
          ∃ source spoken after,
            stretchesOf (fragments (sentence (next :: others))) = .run source spoken :: after
      · obtain ⟨⟨digit, rfl⟩, source, spoken, after, begins⟩ := joins
        have isRun : .run source spoken ∈ stretchesOf (fragments (sentence (next :: others))) :=
          begins ▸ List.mem_cons_self
        have joined : stretchesOf (.word (NumberWord.unit digit).spelling :: .gap [' '] ::
              fragments (sentence (next :: others))) =
            .run ((NumberWord.unit digit).spelling ++ [' '] ++ source) (.unit digit :: spoken) ::
              after := stretchesOf_cons_gap_joined (number?_spelling _) begins [' ']
        rw [begins] at writesRest
        rw [fragments_spelling, List.singleton_append, joined, heardAs_unit]
        exact writes_unit_joined (isUnit_of_mem_run_sentence simpleRest isRun)
          (spoken_ne_nil_of_mem_run isRun) writesRest
      · have notGap : ∀ last ∈ (fragments token).getLast?, last.kind ≠ .gap :=
          fun last isLast => isSimple.isWord.kind_ne_gap (List.mem_of_mem_getLast? isLast)
        have apart : (∀ last ∈ (fragments token).getLast?, last.number? = none) ∨
            ∀ source spoken after,
              stretchesOf (fragments (sentence (next :: others))) ≠
                .run source spoken :: after := by
          rcases isSimple.digitOrNone with isDigit | noNumber
          · exact .inr fun source spoken after begins =>
              joins ⟨isDigit, source, spoken, after, begins⟩
          · exact .inl fun last isLast => noNumber last (List.mem_of_mem_getLast? isLast)
        rw [stretchesOf_append_gap_apart notGap apart]
        refine writes_append_iff.mpr ⟨_, _, isSimple.writes, ?_, rfl⟩
        exact writes_cons_iff.mpr ⟨[' '], _, rfl, writesRest, rfl⟩

/-! ### Sentences behind a kept text -/

/-- Behind a kept text that ends with a scale, a run of digits is written as a numeral each,
but for the first of them. -/
theorem writes_scales_joined {first second : List Fragment} {last : Fragment}
    (kept : AreKept (first ++ [last])) {scale : NumberWord} (isScale : last.number? = some scale)
    {digit : Fin 10} {digits : List NumberWord} (areUnits : ∀ word ∈ digits, word.isUnit)
    {source : Text} {after : List Stretch}
    (begins : stretchesOf second = .run source (.unit digit :: digits) :: after) {result : Text}
    (writes : Writes after result) :
    ∃ heard, (heard = (NumberWord.unit digit).spelling ∨ heard = decimal digit.val) ∧
      Writes (stretchesOf (first ++ [last] ++ .gap [' '] :: second))
        ((first ++ [last]).flatMap Fragment.text ++
          ' ' :: (sentence (heard :: digits.map fun word => decimal word.value) ++ result)) := by
  obtain ⟨before, kernel, spoken, isFirst, joined⟩ :=
    @stretchesOf_append_gap_joined first second last scale isScale source _ after begins
  have isRun : .run kernel spoken ∈ stretchesOf (first ++ [last]) := isFirst ▸ by simp
  have scales := kept.run isRun
  have nonempty := spoken_ne_nil_of_mem_run isRun
  obtain ⟨heard, isHeard, written⟩ :=
    Cardinal.writtenRun_scales_unit nonempty scales (show (NumberWord.unit digit).isUnit from rfl)
      areUnits
  have keptWrites := kept.writes
  rw [isFirst] at keptWrites
  obtain ⟨front, back, isFront, isBack, isText⟩ := writes_append_iff.mp keptWrites
  obtain ⟨own, nothing, isOwn, isNothing, rfl⟩ := writes_cons_iff.mp isBack
  obtain rfl := Except.ok.inj isNothing
  obtain rfl := Except.ok.inj ((Cardinal.writtenRun_scales scales).symm.trans isOwn)
  refine ⟨heard, isHeard, ?_⟩
  rw [joined, isText]
  refine writes_append_iff.mpr ⟨front, _, isFront,
    writes_cons_iff.mpr ⟨_, result, written, writes, rfl⟩, ?_⟩
  have scaleWords : spoken.map NumberWord.spelling ≠ [] :=
    fun isNil => nonempty (List.map_eq_nil_iff.mp isNil)
  rw [sentence_append scaleWords (List.cons_ne_nil _ _)]
  simp

/-- A sentence behind a kept text is written as its tokens are heard, except that the first
of them may stay as it is. -/
theorem expandNumbers_kept_sentence {text : Text} (kept : AreKept (fragments text))
    (noGap : ∀ last ∈ text.getLast?, Fragment.kindOf last ≠ .gap) {token : Text} {rest : List Text}
    (simple : ∀ other ∈ token :: rest, IsSimple other) :
    ∃ first, (first = token ∨ first = heardAs token) ∧
      expandNumbers (text ++ ' ' :: sentence (token :: rest)) =
        .ok (text ++ ' ' :: sentence (first :: rest.map heardAs)) := by
  obtain ⟨isSimple, simpleRest⟩ := List.forall_mem_cons.mp simple
  have words : ∀ other ∈ rest, IsWord other := fun other member => (simpleRest other member).isWord
  have isSentence := writes_sentence simple
  have split := fragments_append_sentence isSimple.isWord noGap rest
  have keptWrites := kept.writes
  rw [flatMap_text_fragments] at keptWrites
  by_cases joins : (∃ last ∈ (fragments text).getLast?, last.number? ≠ none) ∧
      ∃ source spoken after,
        stretchesOf (fragments (sentence (token :: rest))) = .run source spoken :: after
  · obtain ⟨⟨last, isLast, isScale⟩, source, spoken, after, begins⟩ := joins
    obtain ⟨scale, isScale⟩ := Option.ne_none_iff_exists'.mp isScale
    obtain ⟨init, isInit⟩ := List.getLast?_eq_some_iff.mp isLast
    have units := isUnit_of_mem_run_sentence simple (begins ▸ List.mem_cons_self)
    obtain ⟨digit, digits, rfl, rfl⟩ := unit_of_stretches_begin isSimple words begins
    obtain ⟨_, areUnits⟩ := List.forall_mem_cons.mp units
    rw [begins] at isSentence
    obtain ⟨own, back, isOwn, isAfter, isText⟩ := writes_cons_iff.mp isSentence
    obtain rfl := Except.ok.inj ((Cardinal.writtenRun_units units).symm.trans isOwn)
    rw [isInit] at kept split
    obtain ⟨first, isHeard, writes⟩ := writes_scales_joined kept isScale areUnits begins isAfter
    rw [← split, ← isInit, flatMap_text_fragments] at writes
    refine ⟨first, ?_, ?_⟩
    · rw [heardAs_unit]
      exact isHeard
    · rw [List.map_cons, List.map_cons, heardAs_unit] at isText
      rw [expandNumbers_eq_ok_iff, sentence_cons_of_eq_append isText]
      exact writes
  · have apart : (∀ last ∈ (fragments text).getLast?, last.number? = none) ∨
        ∀ source spoken after,
          stretchesOf (fragments (sentence (token :: rest))) ≠ .run source spoken :: after := by
      by_cases begins : ∃ source spoken after,
          stretchesOf (fragments (sentence (token :: rest))) = .run source spoken :: after
      · refine .inl fun last isLast => ?_
        by_contra isNumber
        exact joins ⟨⟨last, isLast, isNumber⟩, begins⟩
      · exact .inr fun source spoken after same => begins ⟨source, spoken, after, same⟩
    refine ⟨heardAs token, .inr rfl, ?_⟩
    rw [expandNumbers_eq_ok_iff, split,
      stretchesOf_append_gap_apart (kind_getLast?_fragments_ne_gap noGap) apart]
    refine writes_append_iff.mpr ⟨text, _, keptWrites, ?_, rfl⟩
    exact writes_cons_iff.mpr ⟨[' '], _, rfl, isSentence, rfl⟩

end RadioCall
