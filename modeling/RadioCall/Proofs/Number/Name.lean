/-
This file proves that a number below a million that is said by its English name is written in
its own digits, whatever stands around it. Two state machines go through the words of a number:
the one that groups them looks at the word before, so a name is one group if each of its words
may follow the one before it; the one that values them holds the thousands already said and
what is said since, so a name adds the number to them part by part.
-/

import Mathlib.Data.List.Chain
import RadioCall.Proofs.Number.Meeting

namespace RadioCall

/-! ### Names -/

namespace Cardinal

/-- The name of a number, or no words for zero: a round number is named without its zeros. -/
def unlessZero (name : Nat → Cardinal) (number : Nat) : Cardinal :=
  if number = 0 then [] else name number

/-- The last digit of a number. -/
def lastDigit (number : Nat) : Fin 10 :=
  ⟨number % 10, Nat.mod_lt number (by decide)⟩

/-- The name of a number below a hundred. -/
def nameBelowHundred (number : Nat) : Cardinal :=
  if number < 10 then [.unit (lastDigit number)]
  else if number < 20 then [.teen (lastDigit number)]
  else .tens ⟨(number / 10 - 2) % 8, Nat.mod_lt _ (by decide)⟩ ::
    unlessZero (fun number => [.unit (lastDigit number)]) (number % 10)

/-- The name of a number below a thousand. -/
def nameBelowThousand (number : Nat) : Cardinal :=
  if number < 100 then nameBelowHundred number
  else .unit (lastDigit (number / 100)) :: .hundred ::
    unlessZero nameBelowHundred (number % 100)

/-- The English name of a number below a million. -/
def name (number : Nat) : Cardinal :=
  if number < 1000 then nameBelowThousand number
  else nameBelowThousand (number / 1000) ++ .thousand ::
    unlessZero nameBelowThousand (number % 1000)

example : (name 120305).map NumberWord.spelling =
    words "one hundred twenty thousand three hundred five".toList := by decide

/-! ### One group -/

/-- Whether a word may follow another one within a number. -/
def mayFollow (previous word : NumberWord) : Bool :=
  joins [[previous]] word

/-- Of a number with no other before it only the last word matters. -/
theorem joins_singleton (previous : NumberWord) (others : Cardinal) (word : NumberWord) :
    joins [previous :: others] word = mayFollow previous word := by
  simp only [mayFollow, joins, List.head?_nil, Option.any_none, Bool.and_false]

theorem foldl_add_of_isChain {previous : NumberWord} {spoken : List NumberWord}
    (chain : (previous :: spoken).IsChain fun first second => mayFollow first second)
    (others : Cardinal) :
    spoken.foldl add [previous :: others] = [spoken.reverse ++ previous :: others] := by
  induction spoken generalizing previous others with
  | nil => rfl
  | cons word rest ih =>
    obtain ⟨follows, chainRest⟩ := List.isChain_cons_cons.mp chain
    have joined : joins [previous :: others] word := (joins_singleton ..).trans follows
    rw [List.foldl_cons, add, if_pos joined, ih chainRest, List.reverse_cons, List.append_assoc,
      List.singleton_append]

/-- Words of which each may follow the one before it are one number. -/
theorem divide_of_isChain {spoken : List NumberWord} (nonempty : spoken ≠ [])
    (chain : spoken.IsChain fun first second => mayFollow first second) :
    divide spoken = [spoken] := by
  obtain ⟨first, rest, rfl⟩ := List.exists_cons_of_ne_nil nonempty
  have begun : add [] first = [[first]] := rfl
  rw [divide, List.foldl_cons, begun, foldl_add_of_isChain chain, List.map_singleton,
    List.reverse_singleton, List.reverse_append, List.reverse_reverse, List.reverse_singleton,
    List.singleton_append]

theorem unit_lastDigit_ne_zero {number : Nat} (small : number < 10) (positive : number ≠ 0) :
    NumberWord.unit (lastDigit number) ≠ .unit 0 := by
  intro same
  have isZero : number % 10 = 0 := congrArg Fin.val (NumberWord.unit.inj same)
  rw [Nat.mod_eq_of_lt small] at isZero
  exact positive isZero

/-- A thousand may follow any word but zero and another thousand. -/
theorem isChain_thousand {previous : NumberWord} (notZero : previous ≠ .unit 0)
    (notThousand : previous ≠ .thousand) :
    [previous, .thousand].IsChain fun first second => mayFollow first second := by
  have follows : mayFollow previous .thousand := by
    cases previous <;> simp_all [mayFollow, joins, NumberWord.isScale]
  exact .cons_cons follows (.singleton _)

theorem mayFollow_hundred {previous : NumberWord} (notZero : previous ≠ .unit 0)
    (notScale : ¬previous.isScale) : mayFollow previous .hundred := by
  have isScale : NumberWord.hundred.isScale := rfl
  simp [mayFollow, joins, isScale, notZero, notScale]

theorem mayFollow_of_isTens {tens word : NumberWord} (isTens : tens.isTens)
    (isUnit : word.isUnit) (notZero : word ≠ .unit 0) : mayFollow tens word := by
  simp [mayFollow, joins, isTens, isUnit, notZero, not_isScale_of_isUnit isUnit]

theorem mayFollow_of_isScale {scale word : NumberWord} (isScale : scale.isScale)
    (notZero : word ≠ .unit 0) (notScale : ¬word.isScale) : mayFollow scale word := by
  simp [mayFollow, joins, isScale, notZero, notScale]

/-- Between two scales the name of a number below a hundred is in one group with them. -/
theorem isChain_nameBelowHundred {number : Nat} (positive : number ≠ 0) {scale : NumberWord}
    (isScale : scale.isScale) :
    (scale :: (nameBelowHundred number ++ [.thousand])).IsChain
      fun first second => mayFollow first second := by
  unfold nameBelowHundred
  split
  · next single =>
    have notZero := unit_lastDigit_ne_zero single positive
    exact .cons_cons (mayFollow_of_isScale isScale notZero nofun) (isChain_thousand notZero nofun)
  · split
    · exact .cons_cons (mayFollow_of_isScale isScale nofun nofun) (isChain_thousand nofun nofun)
    · refine .cons_cons (mayFollow_of_isScale isScale nofun nofun) ?_
      unfold unlessZero
      split
      · exact isChain_thousand nofun nofun
      · next positive =>
        have notZero := unit_lastDigit_ne_zero (Nat.mod_lt number (by decide)) positive
        exact .cons_cons (mayFollow_of_isTens rfl rfl notZero) (isChain_thousand notZero nofun)

/-- So is the name of a number below a thousand, between two thousands. -/
theorem isChain_nameBelowThousand {number : Nat} (small : number < 1000) (positive : number ≠ 0) :
    (NumberWord.thousand :: (nameBelowThousand number ++ [.thousand])).IsChain
      fun first second => mayFollow first second := by
  unfold nameBelowThousand
  split
  · exact isChain_nameBelowHundred positive rfl
  · next large =>
    have notZero := unit_lastDigit_ne_zero (by omega : number / 100 < 10) (by omega)
    refine .cons_cons (mayFollow_of_isScale rfl notZero nofun)
      (.cons_cons (mayFollow_hundred notZero nofun) ?_)
    unfold unlessZero
    split
    · exact isChain_thousand nofun nofun
    · next positive => exact isChain_nameBelowHundred positive rfl

/-- The words of a name make one group. -/
theorem isChain_name {number : Nat} (small : number < 1000000) :
    (name number).IsChain fun first second => mayFollow first second := by
  unfold name
  split
  · next small =>
    by_cases isZero : number = 0
    · subst isZero
      exact .singleton _
    · exact (isChain_nameBelowThousand small isZero).tail.left_of_append
  · -- The thousand ends the chain of the first period and begins that of the second.
    refine List.isChain_split.mpr
      ⟨(isChain_nameBelowThousand (by omega : number / 1000 < 1000) (by omega)).tail, ?_⟩
    unfold unlessZero
    split
    · exact .singleton _
    · next positive =>
      exact (isChain_nameBelowThousand (Nat.mod_lt number (by decide)) positive).left_of_append

/-! ### Its value -/

/-- A name below a hundred adds its number to what is said since the last thousand. -/
theorem foldl_take_nameBelowHundred {number : Nat} (small : number < 100) (sum : Tally) :
    (nameBelowHundred number).foldl Tally.take sum =
      { sum with current := some (sum.current.getD 0 + number) } := by
  -- In each case the tally takes one or two known words; what it then holds is shown.
  unfold nameBelowHundred
  split
  · next single =>
    show (⟨sum.thousands, some (_ + number % 10)⟩ : Tally) = _
    rw [Nat.mod_eq_of_lt single]
  · split
    · next several below =>
      have teen : 10 + number % 10 = number := by omega
      show (⟨sum.thousands, some (_ + (10 + number % 10))⟩ : Tally) = _
      rw [teen]
    · next several above =>
      unfold unlessZero
      split
      · have tens : 20 + 10 * ((number / 10 - 2) % 8) = number := by omega
        show (⟨sum.thousands, some (_ + (20 + 10 * ((number / 10 - 2) % 8)))⟩ : Tally) = _
        rw [tens]
      · have digits : 20 + 10 * ((number / 10 - 2) % 8) + number % 10 % 10 = number := by omega
        show (⟨sum.thousands,
          some (_ + (20 + 10 * ((number / 10 - 2) % 8)) + number % 10 % 10)⟩ : Tally) = _
        rw [Nat.add_assoc, digits]

/-- A name below a thousand counts its number, if nothing was said since the last thousand. -/
theorem foldl_take_nameBelowThousand {number : Nat} (small : number < 1000) (thousands : Nat) :
    (nameBelowThousand number).foldl Tally.take ⟨thousands, none⟩ =
      ⟨thousands, some number⟩ := by
  unfold nameBelowThousand
  split
  · next below =>
    rw [foldl_take_nameBelowHundred below, Option.getD_none, Nat.zero_add]
  · next above =>
    have hundreds : Tally.take (Tally.take ⟨thousands, none⟩
        (.unit (lastDigit (number / 100)))) .hundred =
          ⟨thousands, some (number / 100 * 100)⟩ := by
      show (⟨thousands, some ((0 + number / 100 % 10) * 100)⟩ : Tally) = _
      rw [Nat.zero_add, Nat.mod_eq_of_lt (by omega)]
    rw [List.foldl_cons, List.foldl_cons, hundreds]
    unfold unlessZero
    split
    · rw [List.foldl_nil]
      congr 2
      omega
    · rw [foldl_take_nameBelowHundred (Nat.mod_lt number (by decide)), Option.getD_some]
      congr 2
      omega

/-- A name has the value of its number. -/
theorem value_name {number : Nat} (small : number < 1000000) : value (name number) = number := by
  unfold value name
  split
  · next below =>
    rw [foldl_take_nameBelowThousand below]
    exact Nat.zero_add number
  · next above =>
    have thousands : Tally.take ⟨0, some (number / 1000)⟩ .thousand =
        ⟨number / 1000 * 1000, none⟩ := by
      show (⟨0 + number / 1000 * 1000, none⟩ : Tally) = _
      rw [Nat.zero_add]
    rw [List.foldl_append, foldl_take_nameBelowThousand (by omega), List.foldl_cons, thousands]
    unfold unlessZero
    split
    · show number / 1000 * 1000 + 0 = number
      omega
    · rw [foldl_take_nameBelowThousand (Nat.mod_lt number (by decide))]
      show number / 1000 * 1000 + number % 1000 = number
      omega

/-! ### Writing a name -/

/-- A name begins with a word that is no scale. -/
theorem exists_cons_name (number : Nat) :
    ∃ first rest, name number = first :: rest ∧ ¬first.isScale := by
  have begins (number : Nat) (more : Cardinal) :
      ∃ first rest, nameBelowThousand number ++ more = first :: rest ∧ ¬first.isScale := by
    unfold nameBelowThousand
    split
    · unfold nameBelowHundred
      split
      · exact ⟨_, _, rfl, Bool.false_ne_true⟩
      · split <;> exact ⟨_, _, rfl, Bool.false_ne_true⟩
    · exact ⟨_, _, rfl, Bool.false_ne_true⟩
  unfold name
  split
  · rw [← List.append_nil (nameBelowThousand number)]
    exact begins number []
  · exact begins _ _

/-- A number that is said by its name is written in its own digits. -/
theorem writtenRun_name {number : Nat} (small : number < 1000000) :
    writtenRun (name number) = .ok (decimal number) := by
  obtain ⟨first, rest, isName, notScale⟩ := exists_cons_name number
  have nonempty : name number ≠ [] := isName ▸ List.cons_ne_nil _ _
  have notBare : ¬isBareScale (name number) := isName ▸ notScale
  have oneGroup : divide (name number) = [name number] :=
    divide_of_isChain nonempty (isChain_name small)
  refine writtenRun_eq_ok_iff.mpr ⟨fun cardinal member tooLong => ?_, ?_⟩
  · rw [oneGroup, List.mem_singleton] at member
    have limit : powerOfTen 6 ≤ powerOfTen numeralLimit := powerOfTen_le_powerOfTen (by decide)
    have large := Nat.le_trans limit tooLong.2
    rw [member, value_name small] at large
    exact absurd small (Nat.not_lt_of_le large)
  · rw [runWords, oneGroup, List.flatMap_singleton, writtenWords, if_neg notBare,
      value_name small, sentence_singleton]

end Cardinal

/-! ### Names within a text -/

/-- Whether a text spells number words in a row, any blanks between one and the next. -/
inductive Spells : List NumberWord → Text → Prop
  | single (word : NumberWord) : Spells [word] word.spelling
  | cons (word : NumberWord) {blanks text : Text} {rest : List NumberWord} (nonempty : blanks ≠ [])
      (areBlank : ∀ character ∈ blanks, isBlank character) (spells : Spells rest text) :
      Spells (word :: rest) (word.spelling ++ (blanks ++ text))

/-- Words that are spelled in a row are one run. -/
theorem Spells.stretches {spoken : List NumberWord} {text : Text} (spells : Spells spoken text) :
    stretchesOf (fragments text) = [.run text spoken] := by
  induction spells with
  | single word =>
    rw [fragments_spelling]
    exact Stretch.prepend_nil (number?_spelling word)
  | @cons word blanks text rest nonempty areBlank spells ih =>
    exact stretchesOf_fragments_spelling_append word nonempty areBlank ih

/-- A number below a million that is said by its name is written in its own digits, whatever
stands around it, as long as no number word adjoins it. -/
theorem expandNumbers_name {number : Nat} (small : number < 1000000) {spoken : Text}
    (spells : Spells (Cardinal.name number) spoken) {before after : Text}
    (ends : ¬EndsWithNumberWord before) (begins : ¬BeginsWithNumberWord after) :
    expandNumbers (before ++ ' ' :: (spoken ++ ' ' :: after)) = do
      let front ← expandNumbers before
      let back ← expandNumbers after
      return front ++ ' ' :: (decimal number ++ ' ' :: back) := by
  have isNumber : expandNumbers spoken = .ok (decimal number) := by
    refine expandNumbers_eq_ok_iff.mpr ?_
    rw [spells.stretches]
    exact writes_cons_iff.mpr ⟨_, [], Cardinal.writtenRun_name small, writes_nil,
      (List.append_nil _).symm⟩
  rw [expandNumbers_append_space (.inl ends), expandNumbers_append_space (.inr begins), isNumber]
  cases expandNumbers before with
  | error fault => rfl
  | ok front => cases expandNumbers after <;> rfl

/-- A number of two periods, with tabs and several spaces in its name, between a word that only
ends with a number word and one that only begins with one. -/
theorem expandNumbers_name_amid_words :
    let before := "two mills for someone ".toList
    let spoken := "one hundred\ttwenty  thousand three hundred five".toList
    let after := " tenth nine".toList
    120305 < 1000000 ∧ Spells (Cardinal.name 120305) spoken ∧ ¬EndsWithNumberWord before ∧
      ¬BeginsWithNumberWord after ∧
        expandNumbers (before ++ ' ' :: (spoken ++ ' ' :: after)) = (do
          let front ← expandNumbers before
          let back ← expandNumbers after
          return front ++ ' ' :: (decimal 120305 ++ ' ' :: back)) := by
  have space : ∀ character ∈ [' '], isBlank character := List.forall_mem_singleton.mpr (by decide)
  have tab : ∀ character ∈ ['\t'], isBlank character := List.forall_mem_singleton.mpr (by decide)
  have spaces : ∀ character ∈ [' ', ' '], isBlank character :=
    List.forall_mem_cons.mpr ⟨by decide, space⟩
  have spells : Spells (Cardinal.name 120305)
      "one hundred\ttwenty  thousand three hundred five".toList :=
    .cons (.unit 1) (List.cons_ne_nil _ _) space
      (.cons .hundred (List.cons_ne_nil _ _) tab
        (.cons (.tens 0) (List.cons_ne_nil _ _) spaces
          (.cons .thousand (List.cons_ne_nil _ _) space
            (.cons (.unit 3) (List.cons_ne_nil _ _) space
              (.cons .hundred (List.cons_ne_nil _ _) space (.single (.unit 5)))))))
  have ends : ¬EndsWithNumberWord "two mills for someone ".toList := by decide +kernel
  have begins : ¬BeginsWithNumberWord " tenth nine".toList := by decide +kernel
  exact ⟨by decide, spells, ends, begins, expandNumbers_name (by decide) spells ends begins⟩

end RadioCall
