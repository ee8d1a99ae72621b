/-
This file is about texts that are one word once their numbers are written in digits. Every
number word left in them is a scale: digits and spelled-out numbers turn into numerals, and
a number of several words that stays in words would leave more than one. So a controller
callsign is a kept text.
-/

import RadioCall.Proofs.Number.Result

namespace RadioCall

/-! ### Fragments of words -/

/-- No character of a word makes a gap. -/
theorem IsWord.kindOf_ne_gap {word : Text} (isWord : IsWord word) {character : Char}
    (member : character ∈ word) : Fragment.kindOf character ≠ .gap := by
  intro isGap
  have isBlank := Fragment.kindOf_eq_gap_iff.mp isGap
  rw [isWord.unbroken character member] at isBlank
  cases isBlank

/-- A word has no gap in it. -/
theorem IsWord.kind_ne_gap {word : Text} (isWord : IsWord word) {fragment : Fragment}
    (member : fragment ∈ fragments word) : fragment.kind ≠ .gap := by
  intro isGap
  have proper := (fragments_areMaximal word).proper fragment member
  obtain ⟨character, others, isText⟩ := List.exists_cons_of_ne_nil proper.nonempty
  have inFragment : character ∈ fragment.text := isText ▸ List.mem_cons_self
  have inWord : character ∈ word := by
    rw [← flatMap_text_fragments word]
    exact List.mem_flatMap.mpr ⟨fragment, member, inFragment⟩
  exact isWord.kindOf_ne_gap inWord ((proper.uniform character inFragment).trans isGap)

/-- Blanks divide fragments from a word, which begins and ends with none. -/
theorem IsWord.fragments_around {word before after : Text} (isWord : IsWord word)
    (blanksBefore : ∀ character ∈ before, isBlank character)
    (blanksAfter : ∀ character ∈ after, isBlank character) :
    fragments (before ++ word ++ after) =
      fragments before ++ fragments word ++ fragments after := by
  have beforeApart : fragments (before ++ word) = fragments before ++ fragments word := by
    refine fragments_append fun last isLast next isNext same => ?_
    have isGap := Fragment.kindOf_eq_gap_iff.mpr
      (blanksBefore last (List.mem_of_mem_getLast? isLast))
    exact absurd (same.symm.trans isGap) (isWord.kindOf_ne_gap (List.mem_of_mem_head? isNext))
  have ends : ∀ last ∈ (before ++ word).getLast?, last ∈ word := by
    intro last isLast
    rw [List.getLast?_append_of_ne_nil _ isWord.nonempty] at isLast
    exact List.mem_of_mem_getLast? isLast
  rw [fragments_append fun last isLast next isNext same => ?_, beforeApart]
  have isGap := Fragment.kindOf_eq_gap_iff.mpr (blanksAfter next (List.mem_of_mem_head? isNext))
  exact absurd (same.trans isGap) (isWord.kindOf_ne_gap (ends last isLast))

/-- The fragments of the only word of a text are among those of the text. -/
theorem mem_fragments_of_words_eq_singleton {text word : Text} (single : words text = [word])
    {fragment : Fragment} (member : fragment ∈ fragments word) : fragment ∈ fragments text := by
  have isWord : IsWord word := isWord_of_mem_words (single ▸ List.mem_cons_self)
  obtain ⟨before, after, split, blanksBefore, blanksAfter⟩ :=
    exists_around_of_words_eq_singleton single
  rw [split, isWord.fragments_around blanksBefore blanksAfter]
  exact List.mem_append_left _ (List.mem_append_right _ member)

/-! ### Results of one word -/

theorem IsSolid.isWord {text : Text} (solid : IsSolid text) : IsWord text where
  nonempty := solid.nonempty
  unbroken := by
    intro character member
    have isWord := solid.areWord character member
    cases isBlank : isBlank character with
    | false => rfl
    | true => exact absurd isWord (Fragment.not_isWordCharacter_of_isBlank isBlank)

/-- If a result has one word only, each of its runs is written as one. -/
theorem length_runWords_le_one {stretches : List Stretch} {result word : Text}
    (writes : Writes stretches result) (single : words result = [word]) {source : Text}
    {spoken : List NumberWord} (isRun : .run source spoken ∈ stretches) :
    (Cardinal.runWords spoken).length ≤ 1 := by
  obtain ⟨before, after, rfl⟩ := List.append_of_mem isRun
  obtain ⟨front, others, _, isOthers, rfl⟩ := writes_append_iff.mp writes
  obtain ⟨run, back, isWritten, _, rfl⟩ := writes_cons_iff.mp isOthers
  obtain ⟨_, rfl⟩ := Cardinal.writtenRun_eq_ok_iff.mp isWritten
  match isWords : Cardinal.runWords spoken with
  | [] => exact Nat.zero_le 1
  | [_] => exact Nat.le_refl 1
  | first :: second :: rest =>
    -- The space between the two words divides the result into two texts with words.
    have hasWord {text part : Text} (inRun : part ∈ first :: second :: rest)
        (within : ∀ character ∈ part, character ∈ text) : words text ≠ [] := by
      have isWord := (isSolid_of_mem_runWords (isWords ▸ inRun)).isWord
      obtain ⟨character, _, isPart⟩ := List.exists_cons_of_ne_nil isWord.nonempty
      have inPart : character ∈ part := isPart ▸ List.mem_cons_self
      refine words_ne_nil (within character inPart) ?_
      rw [isWord.unbroken character inPart]
      exact Bool.false_ne_true
    have inFront : words (front ++ first) ≠ [] :=
      hasWord List.mem_cons_self fun character member => List.mem_append_right front member
    have inBack : words (sentence (second :: rest) ++ back) ≠ [] := by
      refine hasWord (List.mem_cons_of_mem _ List.mem_cons_self) fun character member => ?_
      refine List.mem_append_left back ?_
      cases rest with
      | nil => rwa [sentence_singleton]
      | cons third others =>
        rw [sentence_cons_cons]
        exact List.mem_append_left _ member
    have split : front ++ (sentence (first :: second :: rest) ++ back) =
        front ++ first ++ ' ' :: (sentence (second :: rest) ++ back) := by
      rw [sentence_cons_cons, List.append_assoc, List.append_assoc, List.cons_append]
    rw [isWords, split, words_append_cons _ (by decide)] at single
    have two := congrArg List.length single
    rw [List.length_append, List.length_singleton] at two
    have some := List.length_pos_iff.mpr inFront
    have more := List.length_pos_iff.mpr inBack
    omega

/-- A numeral is no number word. -/
theorem ofText?_of_isNumeral {token : Text} (isNumeral : isNumeral token) :
    NumberWord.ofText? token = none := by
  cases found : NumberWord.ofText? token with
  | none => rfl
  | some number =>
    have noDigits : ∀ number ∈ NumberWord.all, ¬RadioCall.isNumeral number.spelling := by
      decide +kernel
    rw [NumberWord.eq_spelling_of_ofText? found] at isNumeral
    exact absurd isNumeral (noDigits number (NumberWord.mem_all number))

/-- A number word that is all that a run is written with is a scale. -/
theorem isScale_of_mem_runWords {spoken : List NumberWord}
    (single : (Cardinal.runWords spoken).length ≤ 1) {number : NumberWord}
    (member : number.spelling ∈ Cardinal.runWords spoken) : number.isScale := by
  obtain ⟨cardinal, inRun, inCardinal⟩ := List.mem_flatMap.mp member
  have isShort : cardinal.writtenWords.length ≤ 1 := by
    have sub : cardinal.writtenWords.Sublist (Cardinal.runWords spoken) := by
      rw [Cardinal.runWords, List.flatMap_def]
      exact List.sublist_flatten_of_mem (List.mem_map_of_mem inRun)
    exact Nat.le_trans sub.length_le single
  rw [Cardinal.writtenWords] at inCardinal isShort
  split at inCardinal
  · next bare =>
    rw [if_pos bare, List.length_map] at isShort
    obtain ⟨other, inWords, sameSpelling⟩ := List.mem_map.mp inCardinal
    obtain ⟨only, rfl⟩ : ∃ only, cardinal = [only] := by
      refine List.length_eq_one_iff.mp (Nat.le_antisymm isShort ?_)
      exact List.length_pos_of_mem inWords
    have same : other = number := by
      have isOther := NumberWord.ofText?_spelling other
      rw [sameSpelling, NumberWord.ofText?_spelling] at isOther
      exact (Option.some.inj isOther).symm
    rw [← same, List.mem_singleton.mp inWords]
    exact bare
  · have isNumeral := NumberWord.ofText?_spelling number
    rw [List.mem_singleton.mp inCardinal, ofText?_of_isNumeral (isNumeral_decimal _)] at isNumeral
    cases isNumeral

/-- What is heard as one word is a kept text. -/
theorem areKept_of_words_eq_singleton {text result word : Text}
    (expanded : expandNumbers text = .ok result) (single : words result = [word]) :
    AreKept (fragments word) := by
  have writes : Writes (stretchesOf (fragments text)) result := expandNumbers_eq_ok_iff.mp expanded
  have isWord : IsWord word := isWord_of_mem_words (single ▸ List.mem_cons_self)
  constructor
  · intro fragment member number isNumber
    have inResult := mem_fragments_of_words_eq_singleton single member
    rw [fragments_of_writes (fragments_areMaximal text) writes] at inResult
    obtain ⟨stretch, inStretches, inPieces⟩ := List.mem_flatMap.mp inResult
    cases stretch with
    | plain other =>
      obtain rfl := List.mem_singleton.mp inPieces
      rw [(mem_of_plain_mem_stretchesOf inStretches).2] at isNumber
      cases isNumber
    | run source spoken =>
      have short := length_runWords_le_one writes single inStretches
      have solid : ∀ word ∈ Cardinal.runWords spoken, IsSolid word :=
        fun _ inRun => isSolid_of_mem_runWords inRun
      rcases mem_fragments_sentence solid inPieces with rfl | ⟨letters, inRun, rfl⟩
      · cases isNumber
      · have isSpelling : letters = number.spelling := Fragment.text_eq_spelling isNumber
        exact isScale_of_mem_runWords short (isSpelling ▸ inRun)
  · intro blanks member
    exact absurd rfl (isWord.kind_ne_gap member)

end RadioCall
