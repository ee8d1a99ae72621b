/-
This file says when a run of number words is written as well-formed numbers. The words are
grouped by looking at the word before, so within a group every word may follow the one before
it. That keeps a zero alone and the words between two scales below a hundred; it does not keep
a scale from coming back after another word, and a group that begins with a scale stays in
words as a whole. Exactly these two cases are not well-formed: a number grows with every word
but a zero, so what is written for a group belongs to no other words.
-/

import RadioCall.Proofs.Number.Amount
import RadioCall.Proofs.Number.Single

namespace RadioCall

namespace Cardinal

/-! ### Groups -/

theorem mayFollow_of_joins {previous word : NumberWord} {others : Cardinal}
    {before : List Cardinal} (joined : joins ((previous :: others) :: before) word) :
    mayFollow previous word := by
  rw [joins] at joined
  rw [mayFollow, joins, List.head?_nil, Option.any_none, Bool.and_false, if_neg Bool.false_ne_true]
  split at joined
  · next isScale =>
    rw [if_pos isScale]
    split at joined
    · cases joined
    · next notZero =>
      rw [if_neg notZero]
      split at joined
      · cases joined
      · exact joined
  · next notScale => rwa [if_neg notScale]

/-- Within a number every word may follow the one before it. -/
theorem isChain_of_mem_divide {spoken : List NumberWord} {cardinal : Cardinal}
    (member : cardinal ∈ divide spoken) :
    cardinal.IsChain fun first second => mayFollow first second := by
  obtain ⟨group, inGroups, rfl⟩ := List.mem_map.mp (List.mem_reverse.mp member)
  refine @forall_mem_foldl_add (fun group => group.reverse.IsChain _) ?_ ?_ [] nofun spoken group
    inGroups
  · exact List.isChain_singleton
  · intro last before word joined chain
    cases last with
    | nil => cases joined
    | cons previous others =>
      rw [List.reverse_cons]
      refine List.isChain_append.mpr
        ⟨chain, .singleton word, fun first isFirst second isSecond => ?_⟩
      rw [List.reverse_cons, List.getLast?_concat] at isFirst
      obtain rfl := Option.some.inj isFirst
      obtain rfl := Option.some.inj isSecond
      exact mayFollow_of_joins joined

theorem not_mayFollow_zero (previous : NumberWord) : ¬mayFollow previous (.unit 0) := by
  simp [mayFollow, @joins_of_isUnit (.unit 0) rfl]

theorem not_zero_mayFollow (word : NumberWord) : ¬mayFollow (.unit 0) word := by
  cases word <;> simp [mayFollow, joins, NumberWord.isScale, NumberWord.isUnit, NumberWord.isTens]

/-- A zero is a number of its own. -/
theorem eq_zero_of_isChain {cardinal : Cardinal}
    (chain : cardinal.IsChain fun first second => mayFollow first second)
    (member : .unit 0 ∈ cardinal) : cardinal = [.unit 0] := by
  obtain ⟨before, after, rfl⟩ := List.append_of_mem member
  obtain ⟨_, chainAfter, meets⟩ := List.isChain_append.mp chain
  have noBefore : before = [] := by
    rcases List.eq_nil_or_concat' before with isNil | ⟨init, last, rfl⟩
    · exact isNil
    · exact absurd (meets last (by simp) _ rfl) (not_mayFollow_zero last)
  have noAfter : after = [] := by
    cases after with
    | nil => rfl
    | cons next rest =>
      exact absurd (List.isChain_cons_cons.mp chainAfter).1 (not_zero_mayFollow next)
  rw [noBefore, noAfter]
  rfl

/-! ### Sizes -/

/-- A word that is no scale follows another such word only if it is a digit after a multiple
of ten. -/
theorem isTens_of_mayFollow {previous word : NumberWord} (follows : mayFollow previous word)
    (notScale : ¬word.isScale) (previousNotScale : ¬previous.isScale) :
    previous.isTens ∧ word.isUnit := by
  rw [mayFollow, joins, if_neg notScale] at follows
  split at follows
  · next isUnit =>
    simp only [Bool.and_eq_true, Bool.or_eq_true, previousNotScale] at follows
    exact ⟨by simpa using follows.2, isUnit⟩
  · exact absurd follows previousNotScale

/-- Words between two scales say less than a hundred. -/
theorem plainAmount_lt_of_isChain {spoken : Cardinal}
    (chain : spoken.IsChain fun first second => mayFollow first second)
    (plain : ∀ word ∈ spoken, ¬word.isScale) : plainAmount spoken < 100 := by
  match spoken with
  | [] => exact Nat.zero_lt_succ _
  | [word] => simpa [plainAmount] using value_lt_hundred (plain word List.mem_cons_self)
  | [tens, unit] =>
    simp only [List.forall_mem_cons] at plain
    obtain ⟨isTens, isUnit⟩ :=
      isTens_of_mayFollow (List.isChain_cons_cons.mp chain).1 plain.2.1 plain.1
    cases tens with
    | tens excess =>
      obtain ⟨digit, rfl⟩ := exists_unit_of_isUnit isUnit
      show 20 + 10 * excess.val + (digit.val + 0) < 100
      omega
    | unit digit => cases isTens
    | teen excess => cases isTens
    | hundred => cases isTens
    | thousand => cases isTens
  | first :: second :: third :: rest =>
    -- The second word is a digit after the first, and a multiple of ten before the third.
    simp only [List.forall_mem_cons] at plain
    obtain ⟨follows, chainRest⟩ := List.isChain_cons_cons.mp chain
    have isUnit := (isTens_of_mayFollow follows plain.2.1 plain.1).2
    have isTens :=
      (isTens_of_mayFollow (List.isChain_cons_cons.mp chainRest).1 plain.2.2.1 plain.2.1).1
    exact absurd isTens (not_isTens_of_isUnit isUnit)

/-- With a scale at most once, an amount is bounded by that of the parts around it. -/
theorem amountAround_le {scale : NumberWord} {amountOf : Cardinal → Nat} {spoken : Cardinal}
    {bound : Nat} (positive : 1 ≤ bound) (once : spoken.count scale ≤ 1)
    (bounded : ∀ part, part <:+: spoken → scale ∉ part → amountOf part ≤ bound) :
    amountAround scale amountOf spoken ≤ bound * scale.value + bound := by
  by_cases member : scale ∈ spoken
  · obtain ⟨before, after, rfl, none⟩ := List.eq_append_cons_of_mem member
    have boundBefore := bounded before (List.prefix_append ..).isInfix none
    have boundAfter := bounded after ⟨before ++ [scale], [], by simp⟩
      (notMem_of_count_append_le_one once)
    have factor : (if before = [] then 1 else amountOf before) ≤ bound := by
      split
      · exact positive
      · exact boundBefore
    rw [amountAround_append amountOf none]
    exact Nat.add_le_add (Nat.mul_le_mul_right _ factor) boundAfter
  · rw [amountAround_of_notMem amountOf member]
    exact Nat.le_trans (bounded spoken List.infix_rfl member) (Nat.le_add_left _ _)

theorem amountBelowThousand_le_of_isChain {spoken : Cardinal}
    (chain : spoken.IsChain fun first second => mayFollow first second)
    (noThousand : .thousand ∉ spoken) (once : spoken.count .hundred ≤ 1) :
    amountBelowThousand spoken ≤ 9999 := by
  refine @amountAround_le .hundred plainAmount spoken 99 (by decide) once fun part inside none => ?_
  have chainPart := List.IsChain.infix chain inside
  refine Nat.le_of_lt_succ (plainAmount_lt_of_isChain chainPart ?_)
  exact not_isScale_of_notMem (fun member => noThousand (inside.subset member)) none

/-- A number with each scale once has at most eight digits. -/
theorem HasScalesOnce.not_isTooLong {cardinal : Cardinal} (once : cardinal.HasScalesOnce)
    (chain : cardinal.IsChain fun first second => mayFollow first second) :
    ¬cardinal.IsTooLong := by
  have small : cardinal.amount ≤ 9999 * 1000 + 9999 := by
    rw [amount]
    rcases once.cases with ⟨noThousand, hundreds⟩ |
        ⟨before, after, rfl, ⟨noneBefore, hundredsBefore⟩, noneAfter, hundredsAfter⟩
    · rw [amountAround_of_notMem _ noThousand]
      have := amountBelowThousand_le_of_isChain chain noThousand hundreds
      omega
    · obtain ⟨chainBefore, chainRest, _⟩ := List.isChain_append.mp chain
      have chainAfter := (List.isChain_cons.mp chainRest).2
      have boundBefore := amountBelowThousand_le_of_isChain chainBefore noneBefore hundredsBefore
      have boundAfter := amountBelowThousand_le_of_isChain chainAfter noneAfter hundredsAfter
      rw [amountAround_append _ noneBefore, show NumberWord.thousand.value = 1000 from rfl]
      split <;> omega
  intro tooLong
  have limit : powerOfTen 8 ≤ powerOfTen numeralLimit := powerOfTen_le_powerOfTen (by decide)
  have large := Nat.le_trans limit tooLong.2
  rw [once.value_eq, show powerOfTen 8 = 100000000 from rfl] at large
  omega

/-! ### Well-formed numbers -/

/-- A number as it is said properly: a zero stands alone, and no scale is said twice but for a
hundred before the thousand and another after it. -/
structure IsWellFormed (cardinal : Cardinal) : Prop where
  nonempty : cardinal ≠ []
  zeroAlone : .unit 0 ∈ cardinal → cardinal = [.unit 0]
  scalesOnce : cardinal.HasScalesOnce

/-- Whether number words are written as these tokens: each scale as it is spelled, or a
well-formed number of one or more words in digits, in order. -/
inductive AreWritten : List NumberWord → List Text → Prop
  | nil : AreWritten [] []
  | scale {word : NumberWord} {rest : List NumberWord} {tokens : List Text}
      (isScale : word.isScale) (others : AreWritten rest tokens) :
      AreWritten (word :: rest) (word.spelling :: tokens)
  | number {cardinal : Cardinal} {rest : List NumberWord} {tokens : List Text}
      (wellFormed : cardinal.IsWellFormed) (others : AreWritten rest tokens) :
      AreWritten (cardinal ++ rest) (decimal cardinal.amount :: tokens)

theorem spelling_ne_decimal (word : NumberWord) (value : Nat) : word.spelling ≠ decimal value := by
  intro same
  have isNumber := NumberWord.ofText?_spelling word
  rw [same, ofText?_of_isNumeral (isNumeral_decimal value)] at isNumber
  cases isNumber

theorem AreWritten.scales_append {scales : Cardinal} (areScales : ∀ word ∈ scales, word.isScale)
    {rest : List NumberWord} {tokens : List Text} (others : AreWritten rest tokens) :
    AreWritten (scales ++ rest) (scales.map NumberWord.spelling ++ tokens) := by
  induction scales with
  | nil => exact others
  | cons word more ih =>
    obtain ⟨isScale, areMore⟩ := List.forall_mem_cons.mp areScales
    exact .scale isScale (ih areMore)

/-- Of words that are written as they are spelled, each is a scale. -/
theorem AreWritten.of_spelled_append {kept : Cardinal} {rest : List NumberWord}
    {tokens : List Text}
    (written : AreWritten (kept ++ rest) (kept.map NumberWord.spelling ++ tokens)) :
    (∀ word ∈ kept, word.isScale) ∧ AreWritten rest tokens := by
  induction kept with
  | nil => exact ⟨nofun, written⟩
  | cons word more ih =>
    generalize isSpoken : word :: more ++ rest = spoken at written
    generalize isTokens : (word :: more).map NumberWord.spelling ++ tokens = written' at written
    cases written with
    | nil => cases isSpoken
    | scale isScale others =>
      obtain ⟨rfl, rfl⟩ := List.cons_eq_cons.mp isSpoken
      obtain ⟨_, rfl⟩ := List.cons_eq_cons.mp isTokens
      obtain ⟨areScales, isRest⟩ := ih others
      exact ⟨List.forall_mem_cons.mpr ⟨isScale, areScales⟩, isRest⟩
    | number wellFormed others =>
      exact absurd (List.cons_eq_cons.mp isTokens).1 (spelling_ne_decimal word _)

theorem decimal_injective : Function.Injective decimal := by
  intro first second same
  rw [← numeralValue_decimal first, same, numeralValue_decimal]

/-- A numeral in front is written for a well-formed number that the words begin with. -/
theorem AreWritten.exists_of_decimal_cons {spoken : List NumberWord} {value : Nat}
    {tokens : List Text} (written : AreWritten spoken (decimal value :: tokens)) :
    ∃ (cardinal : Cardinal) (rest : List NumberWord), spoken = cardinal ++ rest ∧
      cardinal.IsWellFormed ∧ cardinal.amount = value ∧ AreWritten rest tokens := by
  generalize isTokens : decimal value :: tokens = written' at written
  cases written with
  | nil => cases isTokens
  | scale isScale others =>
    exact absurd (List.cons_eq_cons.mp isTokens).1.symm (spelling_ne_decimal _ value)
  | number wellFormed others =>
    obtain ⟨same, rfl⟩ := List.cons_eq_cons.mp isTokens
    exact ⟨_, _, rfl, wellFormed, (decimal_injective same).symm, others⟩

/-- Whether a number is written properly: kept in words it holds scales only, and in digits no
scale is said again in it. -/
def IsWrittenProperly (cardinal : Cardinal) : Prop :=
  if cardinal.isBareScale then ∀ word ∈ cardinal, word.isScale else cardinal.HasScalesOnce

instance (cardinal : Cardinal) : Decidable cardinal.IsWrittenProperly :=
  inferInstanceAs (Decidable (if cardinal.isBareScale then _ else _))

/-- Two numbers that the same words begin with are the same if they have the same value, for the
longer one would be larger. -/
theorem eq_of_value_eq {first second : Cardinal} {rest others : List NumberWord}
    (firstNonempty : first ≠ []) (secondNonempty : second ≠ [])
    (firstZero : .unit 0 ∈ first → first = [.unit 0])
    (secondZero : .unit 0 ∈ second → second = [.unit 0])
    (sameWords : first ++ rest = second ++ others) (sameValue : first.value = second.value) :
    first = second ∧ rest = others := by
  have noMore {short more : Cardinal} (nonempty : short ≠ [])
      (zeroAlone : .unit 0 ∈ short ++ more → short ++ more = [.unit 0])
      (same : short.value = (short ++ more).value) : more = [] := by
    by_contra isMore
    refine absurd same (Nat.ne_of_lt (value_lt_value_append isMore fun zero => ?_))
    have isSingle := congrArg List.length (zeroAlone zero)
    rw [List.length_append, List.length_singleton] at isSingle
    have positive := List.length_pos_iff.mpr nonempty
    have alsoPositive := List.length_pos_iff.mpr isMore
    omega
  rcases List.append_eq_append_iff.mp sameWords with ⟨more, rfl, rfl⟩ | ⟨more, rfl, rfl⟩
  · obtain rfl := noMore firstNonempty secondZero sameValue
    exact ⟨(List.append_nil first).symm, rfl⟩
  · obtain rfl := noMore secondNonempty firstZero sameValue.symm
    exact ⟨List.append_nil second, rfl⟩

/-- Numbers in a row are written as scales and well-formed numbers exactly if each of them is
written properly. -/
theorem areWritten_flatten_iff {groups : List Cardinal} (nonempty : ∀ group ∈ groups, group ≠ [])
    (zeroAlone : ∀ group ∈ groups, .unit 0 ∈ group → group = [.unit 0]) :
    AreWritten groups.flatten (groups.flatMap writtenWords) ↔
      ∀ group ∈ groups, group.IsWrittenProperly := by
  induction groups with
  | nil => exact ⟨fun _ => nofun, fun _ => .nil⟩
  | cons group rest ih =>
    obtain ⟨groupNonempty, restNonempty⟩ := List.forall_mem_cons.mp nonempty
    obtain ⟨groupZero, restZero⟩ := List.forall_mem_cons.mp zeroAlone
    have isRest := ih restNonempty restZero
    rw [List.flatten_cons, List.flatMap_cons, List.forall_mem_cons, ← isRest, IsWrittenProperly,
      writtenWords]
    split
    · exact ⟨AreWritten.of_spelled_append, fun proper => .scales_append proper.1 proper.2⟩
    · constructor
      · intro written
        obtain ⟨cardinal, behind, isSpoken, wellFormed, sameAmount, others⟩ :=
          AreWritten.exists_of_decimal_cons written
        rw [← wellFormed.scalesOnce.value_eq] at sameAmount
        obtain ⟨rfl, rfl⟩ := eq_of_value_eq groupNonempty wellFormed.nonempty groupZero
          wellFormed.zeroAlone isSpoken sameAmount.symm
        exact ⟨wellFormed.scalesOnce, others⟩
      · rintro ⟨once, others⟩
        rw [once.value_eq]
        exact .number ⟨groupNonempty, groupZero, once⟩ others

theorem not_isTooLong_of_isWrittenProperly {cardinal : Cardinal}
    (chain : cardinal.IsChain fun first second => mayFollow first second)
    (proper : cardinal.IsWrittenProperly) : ¬cardinal.IsTooLong := by
  intro tooLong
  rw [IsWrittenProperly, if_neg tooLong.1] at proper
  exact proper.not_isTooLong chain tooLong

end Cardinal

/-! ### Runs -/

/-- Number words in a row are written as a run. -/
theorem expandNumbers_sentence_spelling {spoken : List NumberWord} (nonempty : spoken ≠ []) :
    expandNumbers (sentence (spoken.map NumberWord.spelling)) = Cardinal.writtenRun spoken := by
  obtain ⟨source, isRun⟩ := stretchesOf_sentence_spelling nonempty
  rw [expandNumbers, stretches_eq, isRun, List.mapM_cons, List.mapM_nil, Stretch.written]
  cases Cardinal.writtenRun spoken with
  | error fault => rfl
  | ok text => exact congrArg Except.ok (List.append_nil text)

/-- The words that a run is written with, if it is. -/
theorem words_of_writtenRun {spoken : List NumberWord} {text : Text}
    (written : Cardinal.writtenRun spoken = .ok text) : words text = Cardinal.runWords spoken := by
  rw [(Cardinal.writtenRun_eq_ok_iff.mp written).2]
  exact words_sentence fun token member => (isSolid_of_mem_runWords member).isWord

/-- Number words in a row are written as scales and well-formed numbers exactly if each of the
groups that they are divided into is: a group that begins with a scale holds no other word, and
in any other group no scale is said again. Whatever the groups are, they are what is written. -/
theorem areWritten_expandNumbers_iff {spoken : List NumberWord} (nonempty : spoken ≠ []) :
    ((∃ text, expandNumbers (sentence (spoken.map NumberWord.spelling)) = .ok text ∧
        Cardinal.AreWritten spoken (words text)) ↔
      ∀ cardinal ∈ Cardinal.divide spoken, cardinal.IsWrittenProperly) ∧
    ∀ text, expandNumbers (sentence (spoken.map NumberWord.spelling)) = .ok text →
      words text = (Cardinal.divide spoken).flatMap Cardinal.writtenWords := by
  have chains : ∀ cardinal ∈ Cardinal.divide spoken, cardinal.IsChain _ :=
    fun _ => Cardinal.isChain_of_mem_divide
  have asGroups := Cardinal.areWritten_flatten_iff (fun _ => Cardinal.ne_nil_of_mem_divide)
    fun cardinal member => Cardinal.eq_zero_of_isChain (chains cardinal member)
  rw [Cardinal.flatten_divide] at asGroups
  rw [expandNumbers_sentence_spelling nonempty]
  refine ⟨?_, fun text => words_of_writtenRun⟩
  rw [← asGroups]
  constructor
  · rintro ⟨text, written, areWritten⟩
    rwa [words_of_writtenRun written] at areWritten
  · intro areWritten
    have written : Cardinal.writtenRun spoken = .ok (sentence (Cardinal.runWords spoken)) := by
      refine Cardinal.writtenRun_eq_ok_iff.mpr ⟨fun cardinal member => ?_, rfl⟩
      exact Cardinal.not_isTooLong_of_isWrittenProperly (chains cardinal member)
        (asGroups.mp areWritten cardinal member)
    exact ⟨_, written, by rwa [words_of_writtenRun written]⟩

/-- Two numbers that are, and a number of hundreds said twice that is taken for one number. -/
theorem areWritten_expandNumbers_hundredsTwice :
    let both : List NumberWord :=
      [.unit 4, .hundred, .thousand, .unit 2, .hundred, .unit 6, .unit 0, .thousand]
    let twice : List NumberWord := [.unit 2, .hundred, .unit 2, .hundred]
    (both ≠ [] ∧ (∀ cardinal ∈ Cardinal.divide both, cardinal.IsWrittenProperly) ∧
        ∃ text, expandNumbers (sentence (both.map NumberWord.spelling)) = .ok text ∧
          Cardinal.AreWritten both (words text)) ∧
      twice ≠ [] ∧ (¬∀ cardinal ∈ Cardinal.divide twice, cardinal.IsWrittenProperly) ∧
        ¬∃ text, expandNumbers (sentence (twice.map NumberWord.spelling)) = .ok text ∧
          Cardinal.AreWritten twice (words text) := by
  intro both twice
  have bothProper : ∀ cardinal ∈ Cardinal.divide both, cardinal.IsWrittenProperly := by decide
  have twiceNotProper : ¬∀ cardinal ∈ Cardinal.divide twice, cardinal.IsWrittenProperly := by
    decide
  exact ⟨⟨by decide, bothProper, (areWritten_expandNumbers_iff (by decide)).1.mpr bothProper⟩,
    by decide, twiceNotProper,
    fun written => twiceNotProper ((areWritten_expandNumbers_iff (by decide)).1.mp written)⟩

end RadioCall
