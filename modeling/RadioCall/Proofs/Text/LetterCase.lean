/-
This file shows that lowercasing leaves nothing to do: every character of a lowercase text
is its own small form, so lowercasing again changes nothing. The small letters of a run of
capitals are no capitals, which is checked run against run and not letter by letter. In the
same way none of them is a blank or punctuation, so a word stays a word. And lowercasing goes
word by word, because a blank ends the search for the end of a word.
-/

import RadioCall.Text.Blank
import RadioCall.Text.LetterCase
import RadioCall.Text.Punctuation

namespace RadioCall

/-! ### Runs of capitals -/

namespace CapitalRun

/-- Whether a code point is one of the capitals of a run. -/
def Holds (run : CapitalRun) (code : Nat) : Prop :=
  run.first ≤ code ∧ code ≤ run.last ∧ (code - run.first) % run.step = 0

/-- The last of the small letters of a run. -/
def lastSmall (run : CapitalRun) : Nat :=
  run.small + (run.last - run.first)

/-- Whether no small letter of a run is a capital of another: their ranges are apart, or
both go in steps of two and never meet. -/
def avoids (run other : CapitalRun) : Bool :=
  run.lastSmall.blt other.first || other.last.blt run.small ||
    ((run.step == 2 || run.first == run.last) && other.step == 2 &&
      (run.small + other.first) % 2 == 1)

/-- Whether the small letters of a run are characters, and none of the two characters that
lowercasing treats apart. -/
def isPlain (run : CapitalRun) : Bool :=
  (run.lastSmall.blt 0xd800 || (Nat.blt 0xdfff run.small && run.lastSmall.blt 0x110000)) &&
    (run.lastSmall.blt 0x130 || Nat.blt 0x130 run.small) &&
      (run.lastSmall.blt 0x3a3 || Nat.blt 0x3a3 run.small)

theorem not_holds_of_avoids {run other : CapitalRun} (avoids : run.avoids other) {code : Nat}
    (holds : run.Holds code) : ¬other.Holds (run.small + (code - run.first)) := by
  obtain ⟨fromFirst, toLast, inStep⟩ := holds
  rintro ⟨otherFirst, otherLast, otherStep⟩
  simp only [CapitalRun.avoids, lastSmall, Bool.or_eq_true, Bool.and_eq_true, Nat.blt_eq,
    beq_iff_eq] at avoids
  rcases avoids with (below | above) | ⟨⟨stepOrSingle, isTwo⟩, apart⟩
  · omega
  · omega
  · rw [isTwo] at otherStep
    rcases stepOrSingle with two | single
    · rw [two] at inStep
      omega
    · omega

end CapitalRun

theorem capitalRuns_isPlain_avoids :
    ∀ run ∈ capitalRuns, run.isPlain ∧ ∀ other ∈ capitalRuns, run.avoids other := by
  have checked : (capitalRuns.all fun run => run.isPlain && capitalRuns.all run.avoids) = true := by
    decide +kernel
  intro run member
  obtain ⟨isPlain, avoids⟩ := Bool.and_eq_true_iff.mp (List.all_eq_true.mp checked run member)
  exact ⟨isPlain, List.all_eq_true.mp avoids⟩

/-- A code point stays, or it is a capital of one of the runs. -/
theorem smallOf_cases (runs : List CapitalRun) (code : Nat) :
    smallOf runs code = code ∨
      ∃ run ∈ runs, run.Holds code ∧ smallOf runs code = run.small + (code - run.first) := by
  induction runs with
  | nil => exact .inl rfl
  | cons run rest ih =>
    rw [smallOf]
    split
    · exact .inl rfl
    · next fromFirst =>
      split
      · next within =>
        exact .inr ⟨run, List.mem_cons_self, ⟨Nat.le_of_not_lt fromFirst, within.1, within.2⟩, rfl⟩
      · rcases ih with same | ⟨other, member, holds, small⟩
        · exact .inl same
        · exact .inr ⟨other, List.mem_cons_of_mem _ member, holds, small⟩

theorem smallOf_eq_self {runs : List CapitalRun} {code : Nat}
    (none : ∀ run ∈ runs, ¬run.Holds code) : smallOf runs code = code := by
  rcases smallOf_cases runs code with same | ⟨run, member, holds, _⟩
  · exact same
  · exact absurd holds (none run member)

/-! ### Small characters -/

/-- Whether lowercasing leaves a character alone, whatever stands around it. -/
structure IsSmall (character : Char) : Prop where
  notSigma : character.toNat ≠ 0x3a3
  unchanged : lowerCharacter character = [character]

instance (character : Char) : Decidable (IsSmall character) :=
  decidable_of_iff (character.toNat ≠ 0x3a3 ∧ lowerCharacter character = [character])
    ⟨fun both => ⟨both.1, both.2⟩, fun small => ⟨small.notSigma, small.unchanged⟩⟩

/-- The small letter of a capital is a character with its code point. -/
theorem toNat_ofNat_of_holds {run : CapitalRun} (member : run ∈ capitalRuns) {code : Nat}
    (holds : run.Holds code) :
    (Char.ofNat (run.small + (code - run.first))).toNat = run.small + (code - run.first) := by
  have plain := (capitalRuns_isPlain_avoids run member).1
  simp only [CapitalRun.isPlain, CapitalRun.lastSmall, Bool.or_eq_true, Bool.and_eq_true,
    Nat.blt_eq] at plain
  have toLast := holds.2.1
  have valid : (run.small + (code - run.first)).isValidChar := by
    rw [Nat.isValidChar]
    omega
  rw [Char.ofNat, dif_pos valid]
  rfl

/-- The small letter of a capital is small. -/
theorem isSmall_of_holds {run : CapitalRun} (member : run ∈ capitalRuns) {code : Nat}
    (holds : run.Holds code) : IsSmall (Char.ofNat (run.small + (code - run.first))) := by
  obtain ⟨plain, avoids⟩ := capitalRuns_isPlain_avoids run member
  simp only [CapitalRun.isPlain, CapitalRun.lastSmall, Bool.or_eq_true, Bool.and_eq_true,
    Nat.blt_eq] at plain
  have toLast := holds.2.1
  have toNat := toNat_ofNat_of_holds member holds
  have stays : smallOf capitalRuns (run.small + (code - run.first)) =
      run.small + (code - run.first) :=
    smallOf_eq_self fun other otherMember =>
      CapitalRun.not_holds_of_avoids (avoids other otherMember) holds
  constructor
  · rw [toNat]
    omega
  · rw [lowerCharacter, toNat, if_neg (by omega), stays]

theorem isSmall_of_mem_lowerCharacter {character small : Char}
    (member : small ∈ lowerCharacter character) (notSigma : character.toNat ≠ 0x3a3) :
    IsSmall small := by
  rw [lowerCharacter] at member
  split at member
  · have parts : IsSmall 'i' ∧ IsSmall (Char.ofNat 0x307) := by decide
    rcases List.mem_cons.mp member with isLetter | isDot
    · exact isLetter ▸ parts.1
    · exact List.mem_singleton.mp isDot ▸ parts.2
  · next notDotted =>
    obtain rfl := List.mem_singleton.mp member
    rcases smallOf_cases capitalRuns character.toNat with same | ⟨run, inRuns, holds, isSmall⟩
    · rw [same, Char.ofNat_toNat]
      exact ⟨notSigma, by rw [lowerCharacter, if_neg notDotted, same, Char.ofNat_toNat]⟩
    · rw [isSmall]
      exact isSmall_of_holds inRuns holds

/-! ### Lowercase texts -/

theorem isSmall_of_mem_lowerAfter {before text : Text} {character : Char}
    (member : character ∈ lowerAfter before text) : IsSmall character := by
  induction text generalizing before with
  | nil => cases member
  | cons first rest ih =>
    rw [lowerAfter] at member
    rcases List.mem_append.mp member with inFirst | inRest
    · split at inFirst
      · have sigmas : IsSmall (Char.ofNat 0x3c2) ∧ IsSmall (Char.ofNat 0x3c3) := by decide
        rw [List.mem_singleton] at inFirst
        rw [inFirst]
        split
        · exact sigmas.1
        · exact sigmas.2
      · next notSigma => exact isSmall_of_mem_lowerCharacter inFirst notSigma
    · exact ih inRest

/-- Every character of a lowercase text is small. -/
theorem isSmall_of_mem_lower {text : Text} {character : Char} (member : character ∈ lower text) :
    IsSmall character :=
  isSmall_of_mem_lowerAfter member

theorem lowerAfter_of_isSmall {before text : Text}
    (small : ∀ character ∈ text, IsSmall character) : lowerAfter before text = text := by
  induction text generalizing before with
  | nil => rfl
  | cons first rest ih =>
    have isSmall := small first List.mem_cons_self
    rw [lowerAfter, if_neg isSmall.notSigma, isSmall.unchanged,
      ih fun character member => small character (List.mem_cons_of_mem _ member)]
    rfl

/-- A text of small characters is its own lowercase form. -/
theorem lower_of_isSmall {text : Text} (small : ∀ character ∈ text, IsSmall character) :
    lower text = text :=
  lowerAfter_of_isSmall small

/-! ### Tables without small letters -/

/-- Whether no small letter of a run is in a range of code points. -/
def CapitalRun.isBeside (run : CapitalRun) (range : Nat × Nat) : Bool :=
  run.lastSmall.blt range.1 || range.2.blt run.small

/-- Whether a table covers no character that lowercasing makes: no small letter of a run, no
part of a dotted capital and no small sigma. -/
def CodeTable.isUnmade (table : CodeTable) : Bool :=
  (capitalRuns.all fun run => table.all run.isBeside) &&
    [0x69, 0x307, 0x3c2, 0x3c3].all fun code => !table.covers code

namespace CodeTable

variable {table : CodeTable}

theorem not_covers_small (unmade : table.isUnmade) {run : CapitalRun} (member : run ∈ capitalRuns)
    {code : Nat} (holds : run.Holds code) :
    table.covers (run.small + (code - run.first)) = false := by
  rw [← Bool.not_eq_true]
  intro covered
  obtain ⟨range, inTable, fromFirst, toLast⟩ := exists_range_of_covers covered
  have besideAll := List.all_eq_true.mp (Bool.and_eq_true_iff.mp unmade).1 run member
  have beside := List.all_eq_true.mp besideAll range inTable
  have withinRun := holds.2.1
  simp only [CapitalRun.isBeside, CapitalRun.lastSmall, Bool.or_eq_true, Nat.blt_eq] at beside
  omega

theorem not_covers_made (unmade : table.isUnmade) {code : Nat}
    (made : code ∈ [0x69, 0x307, 0x3c2, 0x3c3]) : table.covers code = false := by
  have apart := List.all_eq_true.mp (Bool.and_eq_true_iff.mp unmade).2 code made
  rwa [Bool.not_eq_true'] at apart

theorem not_covers_of_mem_lowerCharacter (unmade : table.isUnmade) {character small : Char}
    (outside : table.covers character.toNat = false) (member : small ∈ lowerCharacter character) :
    table.covers small.toNat = false := by
  rw [lowerCharacter] at member
  split at member
  · rcases List.mem_cons.mp member with rfl | isDot
    · exact not_covers_made unmade (by decide)
    · obtain rfl := List.mem_singleton.mp isDot
      exact not_covers_made unmade (by decide)
  · obtain rfl := List.mem_singleton.mp member
    rcases smallOf_cases capitalRuns character.toNat with same | ⟨run, inRuns, holds, isSmall⟩
    · rwa [same, Char.ofNat_toNat]
    · rw [isSmall, toNat_ofNat_of_holds inRuns holds]
      exact not_covers_small unmade inRuns holds

theorem not_covers_of_mem_lowerAfter (unmade : table.isUnmade) {before text : Text}
    (outside : ∀ character ∈ text, table.covers character.toNat = false) {small : Char}
    (member : small ∈ lowerAfter before text) : table.covers small.toNat = false := by
  induction text generalizing before with
  | nil => cases member
  | cons first rest ih =>
    obtain ⟨firstOutside, restOutside⟩ := List.forall_mem_cons.mp outside
    rw [lowerAfter] at member
    rcases List.mem_append.mp member with inFirst | inRest
    · split at inFirst
      · rw [List.mem_singleton] at inFirst
        rw [inFirst]
        split
        · exact not_covers_made unmade (by decide)
        · exact not_covers_made unmade (by decide)
      · exact not_covers_of_mem_lowerCharacter unmade firstOutside inFirst
    · exact ih restOutside inRest

end CodeTable

/-- Small letters are neither blanks nor punctuation. -/
theorem isUnmade_of_mem : ∀ table ∈ [blankTable, punctuationTable], table.isUnmade := by
  decide +kernel

/-- Lowercasing makes no blanks. -/
theorem isBlank_of_mem_lower {text : Text}
    (solid : ∀ character ∈ text, isBlank character = false) {small : Char}
    (member : small ∈ lower text) : isBlank small = false := by
  have unmade := isUnmade_of_mem blankTable List.mem_cons_self
  exact CodeTable.not_covers_of_mem_lowerAfter unmade solid member

/-- Lowercasing makes no punctuation. -/
theorem isPunctuation_of_mem_lower {text : Text}
    (plain : ∀ character ∈ text, isPunctuation character = false) {small : Char}
    (member : small ∈ lower text) : isPunctuation small = false := by
  have unmade := isUnmade_of_mem punctuationTable (List.mem_cons_of_mem _ List.mem_cons_self)
  exact CodeTable.not_covers_of_mem_lowerAfter unmade plain member

theorem lowerCharacter_ne_nil (character : Char) : lowerCharacter character ≠ [] := by
  rw [lowerCharacter]
  split <;> exact List.cons_ne_nil _ _

/-- Lowercasing leaves no text empty that is not. -/
theorem lower_ne_nil {text : Text} (nonempty : text ≠ []) : lower text ≠ [] := by
  obtain ⟨first, rest, rfl⟩ := List.exists_cons_of_ne_nil nonempty
  rw [lower, lowerAfter]
  refine List.append_ne_nil_of_left_ne_nil ?_ _
  split
  · exact List.cons_ne_nil _ _
  · exact lowerCharacter_ne_nil first

/-! ### Words apart -/

/-- What holds of every code point of the blanks holds of every blank. -/
theorem of_isBlank {test : Nat → Bool}
    (passes : blankTable.all fun range => (List.range' range.1 (range.2 + 1 - range.1)).all test)
    {blank : Char} (isBlank : isBlank blank) : test blank.toNat := by
  obtain ⟨range, inTable, fromFirst, toLast⟩ := CodeTable.exists_range_of_covers isBlank
  refine List.all_eq_true.mp (List.all_eq_true.mp passes range inTable) _ ?_
  exact List.mem_range'_1.mpr ⟨fromFirst, by omega⟩

/-- A blank is small, and the search for the end of a word neither passes it nor finds a letter
in it. -/
theorem isSmall_of_isBlank {blank : Char} (isBlank : isBlank blank) :
    IsSmall blank ∧ caseIgnorableTable.covers blank.toNat = false ∧
      casedTable.covers blank.toNat = false := by
  have plain := @of_isBlank
    (fun code => code != 0x3a3 && code != 0x130 && smallOf capitalRuns code == code &&
      (!caseIgnorableTable.covers code && !casedTable.covers code))
    (by decide +kernel) blank isBlank
  simp only [Bool.and_eq_true, bne_iff_ne, beq_iff_eq, Bool.not_eq_true'] at plain
  obtain ⟨⟨⟨notSigma, notDotted⟩, same⟩, stops⟩ := plain
  exact ⟨⟨notSigma, by rw [lowerCharacter, if_neg notDotted, same, Char.ofNat_toNat]⟩, stops⟩

/-- The search for the end of a word stops at a blank, which is no letter. -/
theorem meetsCasedLetter_append_blank (first : Text) {blank : Char} (isBlank : isBlank blank)
    (second : Text) : meetsCasedLetter (first ++ blank :: second) = meetsCasedLetter first := by
  have stops := (isSmall_of_isBlank isBlank).2
  induction first with
  | nil =>
    have behind : meetsCasedLetter (blank :: second) = false := by
      rw [meetsCasedLetter, if_neg (ne_true_of_eq_false stops.1), stops.2]
    exact behind
  | cons character rest ih => rw [List.cons_append, meetsCasedLetter, meetsCasedLetter, ih]

/-- What stands before a blank does not matter to the letters after it. -/
theorem lowerAfter_blank (before : Text) {blank : Char} (isBlank : isBlank blank)
    (others text : Text) : lowerAfter (before ++ blank :: others) text = lowerAfter before text := by
  induction text generalizing before with
  | nil => rfl
  | cons character rest ih =>
    have isRest := ih (character :: before)
    rw [List.cons_append] at isRest
    rw [lowerAfter, lowerAfter, meetsCasedLetter_append_blank before isBlank, isRest]

/-- Texts with a blank between them are lowercased one by one. -/
theorem lowerAfter_append_blank (before first : Text) {blank : Char} (isBlank : isBlank blank)
    (second : Text) :
    lowerAfter before (first ++ blank :: second) =
      lowerAfter before first ++ blank :: lower second := by
  induction first generalizing before with
  | nil =>
    have isSmall := (isSmall_of_isBlank isBlank).1
    have apart : lowerAfter (blank :: before) second = lower second :=
      lowerAfter_blank [] isBlank before second
    have behind : lowerAfter before (blank :: second) = blank :: lower second := by
      rw [lowerAfter, if_neg isSmall.notSigma, isSmall.unchanged, apart, List.singleton_append]
    exact behind
  | cons character rest ih =>
    rw [List.cons_append, lowerAfter, lowerAfter, meetsCasedLetter_append_blank rest isBlank, ih,
      List.append_assoc]

end RadioCall
