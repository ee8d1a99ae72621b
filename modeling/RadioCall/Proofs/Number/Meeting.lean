/-
This file shows that the numbers of two texts with blanks between them are written in digits
apart, unless a number word ends the first text and another begins the second. For the blanks
are a gap that no word reaches over, and a run that reaches over it has a number word on both
sides of it.
-/

import Mathlib.Data.List.DropRight
import RadioCall.Proofs.Number.Spacing

namespace RadioCall

/-! ### Whole number words at the ends of a text -/

/-- Whether a text begins, behind any blanks, with a whole number word: one that no word
character adjoins. -/
def BeginsWithNumberWord (text : Text) : Prop :=
  ∃ word ∈ NumberWord.all, word.spelling <+: text.dropWhile isBlank ∧
    ((text.dropWhile isBlank).drop word.spelling.length).head?.all fun next =>
      !isWordCharacter next

/-- Whether a text ends, before any blanks, with a whole number word: one that no word
character adjoins. -/
def EndsWithNumberWord (text : Text) : Prop :=
  ∃ word ∈ NumberWord.all, word.spelling <:+ text.rdropWhile isBlank ∧
    ((text.rdropWhile isBlank).rdrop word.spelling.length).getLast?.all fun last =>
      !isWordCharacter last

instance (text : Text) : Decidable (BeginsWithNumberWord text) :=
  inferInstanceAs (Decidable (∃ word ∈ NumberWord.all, _))

instance (text : Text) : Decidable (EndsWithNumberWord text) :=
  inferInstanceAs (Decidable (∃ word ∈ NumberWord.all, _))

theorem Fragment.kindOf_eq_word_iff {character : Char} :
    kindOf character = .word ↔ isWordCharacter character := by
  unfold kindOf
  split
  · next isWord => exact ⟨fun _ => isWord, fun _ => rfl⟩
  · next notWord =>
    refine ⟨fun isKind => ?_, fun isWord => absurd isWord notWord⟩
    split at isKind <;> cases isKind

/-- Fragments around a number word hold no word character next to it. -/
theorem Fragment.not_isWordCharacter_of_apart {first second : Fragment} {number : NumberWord}
    {character : Char} (apart : first.StaysApart second ∨ second.StaysApart first)
    (isNumber : first.number? = some number) (isKind : kindOf character = second.kind) :
    ¬isWordCharacter character := by
  intro isWord
  have firstWord : first.kind = .word := Stretch.kind_of_number? isNumber
  have secondWord : second.kind = .word := isKind.symm.trans (kindOf_eq_word_iff.mpr isWord)
  rcases apart with apart | apart
  · have isMark := apart (firstWord.trans secondWord.symm)
    rw [firstWord] at isMark
    cases isMark
  · have isMark := apart (secondWord.trans firstWord.symm)
    rw [secondWord] at isMark
    cases isMark

/-- A number word that is the first fragment of a text is one that no word character follows. -/
theorem exists_spelling_append {text : Text} {first : Fragment}
    (isFirst : first ∈ (fragments text).head?) {number : NumberWord}
    (isNumber : first.number? = some number) :
    ∃ rest, text = number.spelling ++ rest ∧ ∀ next ∈ rest.head?, ¬isWordCharacter next := by
  obtain ⟨others, isCut⟩ := List.head?_eq_some_iff.mp isFirst
  have maximal := fragments_areMaximal text
  have isText := flatMap_text_fragments text
  rw [isCut] at maximal isText
  obtain ⟨_, apart, restMaximal⟩ := areMaximal_cons_iff.mp maximal
  rw [List.flatMap_cons, Fragment.text_eq_spelling isNumber] at isText
  refine ⟨others.flatMap Fragment.text, isText.symm, fun next isNext => ?_⟩
  have isKind := kind_head?_fragments (others.flatMap Fragment.text)
  rw [fragments_flatMap_text restMaximal, isNext, Option.map_some] at isKind
  obtain ⟨second, isSecond, sameKind⟩ := Option.map_eq_some_iff.mp isKind
  exact Fragment.not_isWordCharacter_of_apart (.inl (apart second isSecond)) isNumber sameKind.symm

/-- The fragments of a text without blanks in front begin with no number word, if the text begins
with none. -/
theorem number?_of_not_beginsWithNumberWord {text : Text} (noWord : ¬BeginsWithNumberWord text) :
    ∀ first ∈ (fragments (text.dropWhile isBlank)).head?, first.number? = none := by
  intro first isFirst
  by_contra isNumber
  obtain ⟨number, isNumber⟩ := Option.ne_none_iff_exists'.mp isNumber
  obtain ⟨rest, isText, ends⟩ := exists_spelling_append isFirst isNumber
  refine noWord ⟨number, NumberWord.mem_all number, ?_⟩
  rw [isText, List.drop_left]
  refine ⟨List.prefix_append _ _, (Option.all_eq_true ..).mpr fun next isNext => ?_⟩
  simpa using ends next isNext

/-- The fragments of a text without blanks at its end end with no number word, if the text ends
with none. -/
theorem number?_of_not_endsWithNumberWord {text : Text} (noWord : ¬EndsWithNumberWord text) :
    ∀ last ∈ (fragments (text.rdropWhile isBlank)).getLast?, last.number? = none := by
  intro last isLast
  by_contra isNumber
  obtain ⟨number, isNumber⟩ := Option.ne_none_iff_exists'.mp isNumber
  refine noWord ⟨number, NumberWord.mem_all number, ?_⟩
  generalize text.rdropWhile isBlank = text at isLast ⊢
  obtain ⟨others, isCut⟩ := List.getLast?_eq_some_iff.mp isLast
  have maximal := fragments_areMaximal text
  have isText := flatMap_text_fragments text
  rw [isCut] at maximal isText
  obtain ⟨chain, _, apart⟩ := List.isChain_append.mp maximal.apart
  have othersMaximal : AreMaximal others :=
    ⟨fun other member => maximal.proper other (List.mem_append_left _ member), chain⟩
  rw [List.flatMap_append, List.flatMap_singleton, Fragment.text_eq_spelling isNumber] at isText
  subst isText
  refine ⟨List.suffix_append _ _, (Option.all_eq_true ..).mpr fun previous isPrevious => ?_⟩
  have isKind := kind_getLast?_fragments (others.flatMap Fragment.text)
  rw [List.rdrop_append_length] at isPrevious
  rw [fragments_flatMap_text othersMaximal, isPrevious, Option.map_some]
    at isKind
  obtain ⟨second, isSecond, sameKind⟩ := Option.map_eq_some_iff.mp isKind
  simpa using Fragment.not_isWordCharacter_of_apart (.inr (apart second isSecond last rfl))
    isNumber sameKind.symm

/-! ### A number word in front of a text -/

/-- A number word in front of a text that goes on with no word character is a fragment. -/
theorem fragments_spelling_append (word : NumberWord) {rest : Text}
    (ends : ∀ next ∈ rest.head?, ¬isWordCharacter next) :
    fragments (word.spelling ++ rest) = .word word.spelling :: fragments rest := by
  rw [fragments_append, fragments_spelling, List.singleton_append]
  intro last isLast next isNext same
  rw [(isSolid_spelling word).kindOf (List.mem_of_mem_getLast? isLast)] at same
  exact absurd (Fragment.kindOf_eq_word_iff.mp same.symm) (ends next isNext)

theorem not_isWordCharacter_of_mem_head?_blanks {blanks : Text} (nonempty : blanks ≠ [])
    (areBlank : ∀ character ∈ blanks, isBlank character) (rest : Text) :
    ∀ next ∈ (blanks ++ rest).head?, ¬isWordCharacter next := by
  intro next isNext
  rw [List.head?_append_of_ne_nil _ nonempty] at isNext
  exact Fragment.not_isWordCharacter_of_isBlank (areBlank next (List.mem_of_mem_head? isNext))

theorem kindOf_head?_of_run {text source : Text} {spoken : List NumberWord} {back : List Stretch}
    (begins : stretchesOf (fragments text) = .run source spoken :: back) :
    ∀ next ∈ text.head?, Fragment.kindOf next = .word := by
  intro next isNext
  have isKind := kind_head?_stretchesOf (fragments text)
  rw [begins, kind_head?_fragments, Option.mem_def.mp isNext] at isKind
  exact (Option.some.inj isKind).symm

/-- A number word in front of blanks joins the run behind them. -/
theorem stretchesOf_fragments_spelling_append (word : NumberWord) {blanks rest source : Text}
    {spoken : List NumberWord} {back : List Stretch} (nonempty : blanks ≠ [])
    (areBlank : ∀ character ∈ blanks, isBlank character)
    (isRun : stretchesOf (fragments rest) = .run source spoken :: back) :
    stretchesOf (fragments (word.spelling ++ (blanks ++ rest))) =
      .run (word.spelling ++ (blanks ++ source)) (word :: spoken) :: back := by
  have begins : ∀ next ∈ rest.head?, ¬isBlank next := fun next isNext isBlank =>
    Fragment.not_isWordCharacter_of_isBlank isBlank
      (Fragment.kindOf_eq_word_iff.mp (kindOf_head?_of_run isRun next isNext))
  have joined := stretchesOf_cons_gap_joined (number?_spelling word) isRun blanks
  rw [fragments_spelling_append word (not_isWordCharacter_of_mem_head?_blanks nonempty areBlank rest),
    fragments_gap_append nonempty areBlank begins, joined, Fragment.text, List.append_assoc]

/-! ### Texts with blanks between them -/

theorem not_run_of_number?_none {fragments : List Fragment}
    (noNumber : ∀ first ∈ fragments.head?, first.number? = none) (source : Text)
    (spoken : List NumberWord) (after : List Stretch) :
    stretchesOf fragments ≠ .run source spoken :: after := by
  intro begins
  cases fragments with
  | nil => cases begins
  | cons first rest =>
    have isPlain : stretchesOf (first :: rest) = .plain first :: stretchesOf rest :=
      Stretch.prepend_of_number?_none (noNumber first rfl) _
    rw [isPlain] at begins
    cases (List.cons_eq_cons.mp begins).1

/-- Texts with blanks between them are written apart, if no number word ends the first or
none begins the second. -/
theorem expandNumbers_append_blanks {before blanks after : Text} (nonempty : blanks ≠ [])
    (areBlank : ∀ character ∈ blanks, isBlank character)
    (ends : ∀ last ∈ before.getLast?, ¬isBlank last)
    (begins : ∀ next ∈ after.head?, ¬isBlank next)
    (apart : (∀ last ∈ (fragments before).getLast?, last.number? = none) ∨
      ∀ first ∈ (fragments after).head?, first.number? = none) :
    expandNumbers (before ++ (blanks ++ after)) = do
      let front ← expandNumbers before
      let back ← expandNumbers after
      return front ++ (blanks ++ back) := by
  have noGap : ∀ last ∈ before.getLast?, Fragment.kindOf last ≠ .gap :=
    fun last isLast isGap => ends last isLast (Fragment.kindOf_eq_gap_iff.mp isGap)
  have isCut : fragments (before ++ (blanks ++ after)) =
      fragments before ++ .gap blanks :: fragments after := by
    rw [fragments_append, fragments_gap_append nonempty areBlank begins]
    intro last isLast next isNext same
    rw [List.head?_append_of_ne_nil _ nonempty] at isNext
    have isGap := Fragment.kindOf_eq_gap_iff.mpr (areBlank next (List.mem_of_mem_head? isNext))
    exact absurd (same.trans isGap) (noGap last isLast)
  have divided := stretchesOf_append_gap_apart (kind_getLast?_fragments_ne_gap noGap)
    (apart.imp_right not_run_of_number?_none) blanks
  rw [expandNumbers, expandNumbers, expandNumbers, stretches_eq, isCut, divided, List.mapM_append,
    List.mapM_cons, stretches_eq, stretches_eq]
  cases (stretchesOf (fragments before)).mapM Stretch.written with
  | error fault => rfl
  | ok front =>
    cases (stretchesOf (fragments after)).mapM Stretch.written with
    | error fault => rfl
    | ok back =>
      simp [Stretch.written, Fragment.text, bind, Except.bind, pure, Except.pure, Functor.map,
        Except.map]

/-- Blanks at the end of a text stay as they are. -/
theorem expandNumbers_append_trail {text blanks : Text}
    (areBlank : ∀ character ∈ blanks, isBlank character)
    (ends : ∀ last ∈ text.getLast?, ¬isBlank last) :
    expandNumbers (text ++ blanks) = (· ++ blanks) <$> expandNumbers text := by
  by_cases noBlank : blanks = []
  · rw [noBlank, List.append_nil]
    cases expandNumbers text <;> simp
  · have split := @expandNumbers_append_blanks text blanks [] noBlank areBlank ends nofun
      (.inr nofun)
    rw [List.append_nil] at split
    rw [split]
    cases expandNumbers text with
    | error fault => rfl
    | ok front => exact congrArg (fun back => Except.ok (front ++ back)) (List.append_nil blanks)

/-- Blanks at the beginning of a text stay as they are. -/
theorem expandNumbers_blanks_append {blanks text : Text}
    (areBlank : ∀ character ∈ blanks, isBlank character)
    (begins : ∀ next ∈ text.head?, ¬isBlank next) :
    expandNumbers (blanks ++ text) = (blanks ++ ·) <$> expandNumbers text := by
  by_cases noBlank : blanks = []
  · rw [noBlank, List.nil_append]
    cases expandNumbers text <;> rfl
  · have split := @expandNumbers_append_blanks [] blanks text noBlank areBlank nofun begins
      (.inl nofun)
    rw [List.nil_append] at split
    rw [split]
    cases expandNumbers text <;> rfl

/-- A space divides what is written of two texts, unless a number word ends the first of them
and another begins the second. -/
theorem expandNumbers_append_space {first second : Text}
    (apart : ¬EndsWithNumberWord first ∨ ¬BeginsWithNumberWord second) :
    expandNumbers (first ++ ' ' :: second) = do
      let front ← expandNumbers first
      let back ← expandNumbers second
      return front ++ ' ' :: back := by
  -- The blanks around the space belong to one gap with it.
  have isFirst : first.rdropWhile isBlank ++ first.rtakeWhile isBlank = first :=
    List.rdropWhile_append_rtakeWhile ..
  have isSecond : second.takeWhile isBlank ++ second.dropWhile isBlank = second :=
    List.takeWhile_append_dropWhile
  have areTrail : ∀ character ∈ first.rtakeWhile isBlank, isBlank character :=
    fun _ => List.mem_rtakeWhile_imp
  have areLead : ∀ character ∈ second.takeWhile isBlank, isBlank character :=
    fun _ => List.mem_takeWhile_imp
  have ends : ∀ last ∈ (first.rdropWhile isBlank).getLast?, ¬isBlank last := by
    intro last isLast
    rw [List.rdropWhile, List.getLast?_reverse] at isLast
    exact not_of_mem_head?_dropWhile isLast
  have begins : ∀ next ∈ (second.dropWhile isBlank).head?, ¬isBlank next :=
    fun _ => not_of_mem_head?_dropWhile
  have divided := apart.imp number?_of_not_endsWithNumberWord number?_of_not_beginsWithNumberWord
  generalize first.rdropWhile isBlank = before at *
  generalize first.rtakeWhile isBlank = trail at *
  generalize second.dropWhile isBlank = after at *
  generalize second.takeWhile isBlank = lead at *
  have areBlank : ∀ character ∈ trail ++ ' ' :: lead, isBlank character :=
    List.forall_mem_append.mpr ⟨areTrail, List.forall_mem_cons.mpr ⟨by decide, areLead⟩⟩
  have split := expandNumbers_append_blanks (by simp) areBlank ends begins divided
  have regroup : first ++ ' ' :: second = before ++ (trail ++ ' ' :: lead ++ after) := by
    rw [← isFirst, ← isSecond]
    simp
  rw [regroup, split, ← isFirst, expandNumbers_append_trail areTrail ends, ← isSecond,
    expandNumbers_blanks_append areLead begins]
  cases expandNumbers before with
  | error fault => rfl
  | ok front =>
    cases expandNumbers after with
    | error fault => rfl
    | ok back => simp [bind, Except.bind, pure, Except.pure, Functor.map, Except.map]

end RadioCall
