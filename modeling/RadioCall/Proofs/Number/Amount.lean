/-
This file says what a spoken number amounts to. A scale multiplies what is said before it, and
what is said after it is added; so a number with one thousand, and one hundred on each side of
it, has the amount that its parts around the scales give. The words of a number are counted one
by one, and each of them but a zero makes it larger: no number is as large as one that begins it.
-/

import RadioCall.Proofs.Number.Name

namespace RadioCall

namespace Cardinal

/-! ### Parts around a scale -/

/-- The amount of words without scales. -/
def plainAmount : Cardinal → Nat
  | [] => 0
  | word :: rest => word.value + plainAmount rest

/-- The amount of words around a scale: the scale is taken as often as the words before it say,
or once if there are none, and the amount of the words after it is added. -/
def amountAround (scale : NumberWord) (amountOf : Cardinal → Nat) (spoken : Cardinal) : Nat :=
  let before := spoken.takeWhile (· ≠ scale)
  match spoken.dropWhile (· ≠ scale) with
  | [] => amountOf before
  | _ :: after => (if before = [] then 1 else amountOf before) * scale.value + amountOf after

/-- The amount of words without a thousand. -/
def amountBelowThousand : Cardinal → Nat :=
  amountAround .hundred plainAmount

/-- The amount of a spoken number. -/
def amount : Cardinal → Nat :=
  amountAround .thousand amountBelowThousand

example : amount [.unit 3, .hundred, .tens 3, .unit 2, .thousand, .teen 7] = 352017 := by decide

theorem takeWhile_dropWhile_of_notMem {scale : NumberWord} {before : Cardinal}
    (none : scale ∉ before) {rest : Cardinal} (begins : ∀ next ∈ rest.head?, next = scale) :
    (before ++ rest).takeWhile (· ≠ scale) = before ∧
      (before ++ rest).dropWhile (· ≠ scale) = rest := by
  refine takeWhile_dropWhile_of_ends (fun word member => ?_) fun next isNext => ?_
  · exact decide_eq_true fun same => none (same ▸ member)
  · simp [begins next isNext]

theorem amountAround_of_notMem {scale : NumberWord} (amountOf : Cardinal → Nat)
    {spoken : Cardinal} (none : scale ∉ spoken) :
    amountAround scale amountOf spoken = amountOf spoken := by
  have parts := @takeWhile_dropWhile_of_notMem scale spoken none [] nofun
  rw [List.append_nil] at parts
  rw [amountAround, parts.1, parts.2]

theorem amountAround_append {scale : NumberWord} (amountOf : Cardinal → Nat) {before : Cardinal}
    (none : scale ∉ before) (after : Cardinal) :
    amountAround scale amountOf (before ++ scale :: after) =
      (if before = [] then 1 else amountOf before) * scale.value + amountOf after := by
  have parts := @takeWhile_dropWhile_of_notMem scale before none (scale :: after)
    fun _ isNext => (Option.some.inj isNext).symm
  rw [amountAround, parts.1, parts.2]

/-! ### Numbers with each scale once -/

/-- Whether a number has at most one thousand, and at most one hundred on each side of it. -/
structure HasScalesOnce (cardinal : Cardinal) : Prop where
  thousand : cardinal.count .thousand ≤ 1
  before : (cardinal.takeWhile (· ≠ .thousand)).count .hundred ≤ 1
  after : (cardinal.dropWhile (· ≠ .thousand)).count .hundred ≤ 1

instance (cardinal : Cardinal) : Decidable cardinal.HasScalesOnce :=
  decidable_of_iff (cardinal.count .thousand ≤ 1 ∧
    (cardinal.takeWhile (· ≠ .thousand)).count .hundred ≤ 1 ∧
      (cardinal.dropWhile (· ≠ .thousand)).count .hundred ≤ 1)
    ⟨fun all => ⟨all.1, all.2.1, all.2.2⟩, fun once => ⟨once.thousand, once.before, once.after⟩⟩

/-- A number with each scale once is said without a thousand, or with one between two parts
without any. -/
theorem HasScalesOnce.cases {cardinal : Cardinal} (once : cardinal.HasScalesOnce) :
    (.thousand ∉ cardinal ∧ cardinal.count .hundred ≤ 1) ∨
      ∃ before after, cardinal = before ++ .thousand :: after ∧
        (.thousand ∉ before ∧ before.count .hundred ≤ 1) ∧
          .thousand ∉ after ∧ after.count .hundred ≤ 1 := by
  by_cases member : .thousand ∈ cardinal
  · obtain ⟨before, after, rfl, none⟩ := List.eq_append_cons_of_mem member
    have parts := @takeWhile_dropWhile_of_notMem .thousand before none (.thousand :: after)
      fun _ isNext => (Option.some.inj isNext).symm
    have onceBefore := once.before
    have onceAfter := once.after
    have thousands := once.thousand
    rw [parts.1] at onceBefore
    rw [parts.2, List.count_cons_of_ne (by decide)] at onceAfter
    rw [List.count_append, List.count_cons_self] at thousands
    exact .inr ⟨before, after, rfl, ⟨none, onceBefore⟩, List.count_eq_zero.mp (by omega), onceAfter⟩
  · have parts := @takeWhile_dropWhile_of_notMem .thousand cardinal member [] nofun
    have onceBefore := once.before
    rw [List.append_nil] at parts
    rw [parts.1] at onceBefore
    exact .inl ⟨member, onceBefore⟩

theorem notMem_of_count_append_le_one {scale : NumberWord} {before after : Cardinal}
    (once : (before ++ scale :: after).count scale ≤ 1) : scale ∉ after := by
  rw [List.count_append, List.count_cons_self] at once
  exact List.count_eq_zero.mp (by omega)

/-! ### Counting -/

theorem not_isScale_of_notMem {spoken : Cardinal} (noThousand : .thousand ∉ spoken)
    (noHundred : .hundred ∉ spoken) : ∀ word ∈ spoken, ¬word.isScale := by
  intro word member
  cases word with
  | unit digit => exact Bool.false_ne_true
  | teen excess => exact Bool.false_ne_true
  | tens excess => exact Bool.false_ne_true
  | hundred => exact absurd member noHundred
  | thousand => exact absurd member noThousand

theorem take_of_not_isScale {word : NumberWord} (notScale : ¬word.isScale) (sum : Tally) :
    sum.take word = { sum with current := some (sum.current.getD 0 + word.value) } := by
  cases word with
  | unit digit => rfl
  | teen excess => rfl
  | tens excess => rfl
  | hundred => exact absurd rfl notScale
  | thousand => exact absurd rfl notScale

/-- What is said since the last thousand, if anything is. -/
def saidSince (spoken : Cardinal) (said : Nat) : Option Nat :=
  if spoken = [] then none else some said

theorem saidSince_getD {amountOf : Cardinal → Nat} (nothing : amountOf [] = 0) (spoken : Cardinal) :
    (saidSince spoken (amountOf spoken)).getD 0 = amountOf spoken := by
  unfold saidSince
  split
  · next isNil => rw [isNil, nothing]; rfl
  · rfl

theorem saidSince_getD_one {amountOf : Cardinal → Nat} (spoken : Cardinal) :
    (saidSince spoken (amountOf spoken)).getD 1 = if spoken = [] then 1 else amountOf spoken := by
  unfold saidSince
  split <;> rfl

theorem foldl_take_plain {spoken : Cardinal} (plain : ∀ word ∈ spoken, ¬word.isScale)
    (sum : Tally) :
    spoken.foldl Tally.take sum =
      if spoken = [] then sum
      else { sum with current := some (sum.current.getD 0 + plainAmount spoken) } := by
  induction spoken generalizing sum with
  | nil => rfl
  | cons word rest ih =>
    obtain ⟨notScale, plainRest⟩ := List.forall_mem_cons.mp plain
    have isSum : plainAmount (word :: rest) = word.value + plainAmount rest := rfl
    rw [List.foldl_cons, ih plainRest, take_of_not_isScale notScale, if_neg (List.cons_ne_nil _ _),
      isSum, ← Nat.add_assoc]
    split
    · next isNil => rw [isNil]; rfl
    · rfl

theorem foldl_take_plain_none {spoken : Cardinal} (plain : ∀ word ∈ spoken, ¬word.isScale)
    (thousands : Nat) :
    spoken.foldl Tally.take ⟨thousands, none⟩ =
      ⟨thousands, saidSince spoken (plainAmount spoken)⟩ := by
  rw [foldl_take_plain plain, saidSince]
  split
  · rfl
  · rw [Option.getD_none, Nat.zero_add]

/-- Words without a thousand and with at most one hundred are counted as their amount. -/
theorem foldl_take_belowThousand {spoken : Cardinal} (noThousand : .thousand ∉ spoken)
    (once : spoken.count .hundred ≤ 1) (thousands : Nat) :
    spoken.foldl Tally.take ⟨thousands, none⟩ =
      ⟨thousands, saidSince spoken (amountBelowThousand spoken)⟩ := by
  unfold amountBelowThousand
  by_cases member : .hundred ∈ spoken
  · obtain ⟨before, after, rfl, none⟩ := List.eq_append_cons_of_mem member
    have noHundred := notMem_of_count_append_le_one once
    rw [List.mem_append, List.mem_cons, not_or, not_or] at noThousand
    have plainBefore := not_isScale_of_notMem noThousand.1 none
    have plainAfter := not_isScale_of_notMem noThousand.2.2 noHundred
    have something (said : Nat) : saidSince (before ++ .hundred :: after) said = some said :=
      if_neg (List.append_ne_nil_of_right_ne_nil _ (List.cons_ne_nil _ _))
    rw [amountAround_append plainAmount none, List.foldl_append, foldl_take_plain_none plainBefore,
      List.foldl_cons, Tally.take, saidSince_getD_one, foldl_take_plain plainAfter, something]
    split
    · next isNil => rw [isNil]; rfl
    · rfl
  · rw [amountAround_of_notMem plainAmount member,
      foldl_take_plain_none (not_isScale_of_notMem noThousand member)]

theorem amountBelowThousand_nil : amountBelowThousand [] = 0 := rfl

/-- A number with each scale once has the value of its amount. -/
theorem HasScalesOnce.value_eq {cardinal : Cardinal} (once : cardinal.HasScalesOnce) :
    cardinal.value = cardinal.amount := by
  unfold value amount
  rcases once.cases with ⟨noThousand, hundreds⟩ |
      ⟨before, after, rfl, ⟨noneBefore, hundredsBefore⟩, noneAfter, hundredsAfter⟩
  · rw [amountAround_of_notMem _ noThousand, foldl_take_belowThousand noThousand hundreds]
    show 0 + _ = _
    rw [Nat.zero_add, saidSince_getD amountBelowThousand_nil]
  · rw [amountAround_append _ noneBefore, List.foldl_append,
      foldl_take_belowThousand noneBefore hundredsBefore, List.foldl_cons, Tally.take,
      saidSince_getD_one, foldl_take_belowThousand noneAfter hundredsAfter]
    show 0 + _ * 1000 + _ = _
    rw [Nat.zero_add, saidSince_getD amountBelowThousand_nil]
    rfl

/-! ### Growth -/

/-- The number that is counted so far. -/
def Tally.total (sum : Tally) : Nat :=
  sum.thousands + sum.current.getD 0

theorem value_eq_total (cardinal : Cardinal) :
    cardinal.value = (cardinal.foldl Tally.take ⟨0, none⟩).total := rfl

theorem value_pos_of_ne_zero {word : NumberWord} (notZero : word ≠ .unit 0) : 0 < word.value := by
  cases word with
  | unit digit =>
    show 0 < digit.val
    refine Nat.pos_of_ne_zero fun isZero => notZero ?_
    rw [show digit = 0 from Fin.ext isZero]
  | teen excess =>
    show 0 < 10 + excess.val
    omega
  | tens excess =>
    show 0 < 20 + 10 * excess.val
    omega
  | hundred => exact Nat.zero_lt_succ _
  | thousand => exact Nat.zero_lt_succ _

/-- Every word but a zero makes the number larger, unless it is a zero so far. -/
theorem Tally.total_lt_take {sum : Tally} (notZero : sum.current ≠ some 0) {word : NumberWord}
    (other : word ≠ .unit 0) :
    sum.total < (sum.take word).total ∧ (sum.take word).current ≠ some 0 := by
  have positive := value_pos_of_ne_zero other
  obtain ⟨thousands, current⟩ := sum
  by_cases isScale : word.isScale
  · cases word with
    | unit digit => cases isScale
    | teen excess => cases isScale
    | tens excess => cases isScale
    | hundred =>
      cases current with
      | none => simp [Tally.total, Tally.take]
      | some said =>
        have said : 0 < said := Nat.pos_of_ne_zero fun isZero => notZero (by rw [isZero])
        simp only [Tally.total, Tally.take, Option.getD_some, ne_eq, Option.some.injEq]
        omega
    | thousand =>
      cases current with
      | none => simp [Tally.total, Tally.take]
      | some said =>
        have said : 0 < said := Nat.pos_of_ne_zero fun isZero => notZero (by rw [isZero])
        simp only [Tally.total, Tally.take, Option.getD_some, Option.getD_none]
        exact ⟨by omega, nofun⟩
  · rw [take_of_not_isScale isScale]
    simp only [Tally.total, Option.getD_some, ne_eq, Option.some.injEq]
    omega

theorem Tally.total_lt_foldl {sum : Tally} (notZero : sum.current ≠ some 0)
    {spoken : Cardinal} (nonempty : spoken ≠ []) (noZero : .unit 0 ∉ spoken) :
    sum.total < (spoken.foldl Tally.take sum).total := by
  induction spoken generalizing sum with
  | nil => exact absurd rfl nonempty
  | cons word rest ih =>
    rw [List.mem_cons, not_or] at noZero
    obtain ⟨larger, stillNotZero⟩ := Tally.total_lt_take notZero (Ne.symm noZero.1)
    rw [List.foldl_cons]
    by_cases isLast : rest = []
    · rw [isLast]
      exact larger
    · exact Nat.lt_trans larger (ih stillNotZero isLast noZero.2)

theorem Tally.current_foldl_ne_zero {sum : Tally} (notZero : sum.current ≠ some 0)
    {spoken : Cardinal} (noZero : .unit 0 ∉ spoken) :
    (spoken.foldl Tally.take sum).current ≠ some 0 := by
  induction spoken generalizing sum with
  | nil => exact notZero
  | cons word rest ih =>
    rw [List.mem_cons, not_or] at noZero
    exact ih (Tally.total_lt_take notZero (Ne.symm noZero.1)).2 noZero.2

/-- A number without a zero is larger than one that begins it. -/
theorem value_lt_value_append {first second : Cardinal} (more : second ≠ [])
    (noZero : .unit 0 ∉ first ++ second) : first.value < (first ++ second).value := by
  rw [List.mem_append, not_or] at noZero
  rw [value_eq_total, value_eq_total, List.foldl_append]
  refine Tally.total_lt_foldl ?_ more noZero.2
  exact Tally.current_foldl_ne_zero (Option.some_ne_none 0).symm noZero.1

end Cardinal

end RadioCall
