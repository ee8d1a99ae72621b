/-
This file proves that a double reads back from its shortest decimal number. A decimal number
reads back exactly if it lies between the midpoints around the double, so rounding gives the
double again. With 17 digits there is always such a number: decimal numbers of 17 digits are
so close together that the nearer one of the two around the double lies between the midpoints.
-/

import RadioCall.Number.Shortest
import RadioCall.Proofs.Number.Rounding
import RadioCall.Proofs.Text.Numeral

namespace RadioCall

namespace Double

/-! ### Numbers that read back -/

theorem scaled_eq (quarters : Nat) (exponent : Int) :
    scaled quarters exponent =
      (quarters * powerOfTen (-exponent).toNat, 4 * stepsPerUnit * powerOfTen exponent.toNat) := by
  have one : powerOfTen 0 = 1 := rfl
  by_cases whole : 0 ≤ exponent
  · rw [scaled, if_pos whole, show (-exponent).toNat = 0 by omega, one, Nat.mul_one]
  · rw [scaled, if_neg whole, show exponent.toNat = 0 by omega, one, Nat.mul_one]

theorem mul_scaled (digits quarters : Nat) (exponent : Int) :
    digits * (scaled quarters exponent).2 = 4 * (quotientOf digits exponent).1 := by
  rw [scaled_eq, quotientOf]
  ring

theorem scaled_fst (digits quarters : Nat) (exponent : Int) :
    (scaled quarters exponent).1 = quarters * (quotientOf digits exponent).2 := by
  rw [scaled_eq, quotientOf]

/-- A decimal number reads back exactly if it lies between the midpoints. -/
theorem readsBack_iff {magnitude : Nat} {number : DecimalNumber} :
    readsBack magnitude number ↔
      IsNearest magnitude (quotientOf number.digits number.exponent).1
        (quotientOf number.digits number.exponent).2 := by
  rw [readsBack, ← quartersBelow]
  simp only [mul_scaled, scaled_fst number.digits]
  constructor
  · intro reads
    split at reads
    · next isEven =>
      rw [Bool.and_eq_true, decide_eq_true_iff, decide_eq_true_iff] at reads
      exact ⟨reads.1, reads.2, fun _ => isEven⟩
    · rw [Bool.and_eq_true, decide_eq_true_iff, decide_eq_true_iff] at reads
      exact ⟨reads.1.le, reads.2.le, fun isMidpoint => by omega⟩
  · rintro ⟨low, high, tie⟩
    split
    · rw [Bool.and_eq_true, decide_eq_true_iff, decide_eq_true_iff]
      exact ⟨low, high⟩
    · next isOdd =>
      rw [Bool.and_eq_true, decide_eq_true_iff, decide_eq_true_iff]
      have notMidpoint := mt tie isOdd
      omega

/-! ### Order of magnitude -/

theorem spacing_le {magnitude : Nat} (positive : magnitude ≠ 0)
    (isMagnitude : IsMagnitude magnitude) : spacing magnitude ≤ magnitude :=
  Nat.le_of_dvd (Nat.pos_of_ne_zero positive) isMagnitude.1

theorem decimal_lt (digits : Nat) : digits < powerOfTen (decimal digits).length :=
  (length_decimal_le_iff (List.length_pos_iff.mpr (decimal_ne_nil digits))).mp (le_refl _)

theorem le_decimal {digits : Nat} (positive : digits ≠ 0) :
    powerOfTen ((decimal digits).length - 1) ≤ digits := by
  rcases Nat.eq_zero_or_pos ((decimal digits).length - 1) with short | long
  · rw [short]
    exact Nat.pos_of_ne_zero positive
  · refine Nat.le_of_not_lt fun less => ?_
    have := (length_decimal_le_iff long).mpr less
    omega

/-- The least midpoint around a magnitude is at least half a step. -/
theorem IsNearest.le_order {magnitude digits : Nat} {exponent : Int} (positive : magnitude ≠ 0)
    (isMagnitude : IsMagnitude magnitude)
    (nearest : IsNearest magnitude (quotientOf digits exponent).1 (quotientOf digits exponent).2) :
    -330 ≤ orderOf digits exponent := by
  by_contra! low
  have below := quartersBelow_le magnitude
  have spaced := spacing_le positive isMagnitude
  rw [orderOf, ← decimal] at low
  have tooSmall : (decimal digits).length + 331 ≤ (-exponent).toNat := by omega
  have none : exponent.toNat = 0 := by omega
  have reached : 2 * (powerOfTen (decimal digits).length * powerOfTen 331) ≤
      4 * (digits * stepsPerUnit) := by
    calc 2 * (powerOfTen (decimal digits).length * powerOfTen 331)
        ≤ 2 * powerOfTen (-exponent).toNat := by
          rw [← powerOfTen_add]
          exact Nat.mul_le_mul_left 2 (powerOfTen_le_powerOfTen tooSmall)
      _ ≤ (4 * magnitude - quartersBelow magnitude) * powerOfTen (-exponent).toNat :=
          Nat.mul_le_mul_right _ (by omega)
      _ ≤ 4 * (digits * powerOfTen exponent.toNat * stepsPerUnit) := nearest.low
      _ = 4 * (digits * stepsPerUnit) := by
          rw [none, show powerOfTen 0 = 1 from rfl, Nat.mul_one]
  have shorter := Nat.mul_lt_mul_of_pos_right (decimal_lt digits) stepsPerUnit_pos
  have less : powerOfTen 331 < 2 * stepsPerUnit := by
    refine Nat.lt_of_mul_lt_mul_left (a := powerOfTen (decimal digits).length) ?_
    rw [Nat.mul_left_comm]
    omega
  exact Nat.lt_asymm less (by decide +kernel)

/-- The greatest midpoint around a magnitude is not far beyond the bound of magnitudes. -/
theorem IsNearest.order_le {magnitude digits : Nat} {exponent : Int} (positive : magnitude ≠ 0)
    (isMagnitude : IsMagnitude magnitude) (nonzero : digits ≠ 0)
    (nearest : IsNearest magnitude (quotientOf digits exponent).1 (quotientOf digits exponent).2) :
    orderOf digits exponent ≤ 330 := by
  by_contra! high
  have spaced := spacing_le positive isMagnitude
  have bounded := isMagnitude.2
  rw [magnitudeBound_eq] at bounded
  have tooLarge : 330 + (-exponent).toNat ≤ (decimal digits).length - 1 + exponent.toNat := by
    rw [orderOf, ← decimal] at high
    omega
  have reached : 4 * (powerOfTen 330 * stepsPerUnit) * powerOfTen (-exponent).toNat ≤
      6 * (powerOfTwo 1024 * stepsPerUnit) * powerOfTen (-exponent).toNat := by
    calc 4 * (powerOfTen 330 * stepsPerUnit) * powerOfTen (-exponent).toNat
        = 4 * (powerOfTen (330 + (-exponent).toNat) * stepsPerUnit) := by
          rw [powerOfTen_add]
          ring
      _ ≤ 4 * (powerOfTen ((decimal digits).length - 1 + exponent.toNat) * stepsPerUnit) :=
          Nat.mul_le_mul_left 4 (Nat.mul_le_mul_right _ (powerOfTen_le_powerOfTen tooLarge))
      _ ≤ 4 * (digits * powerOfTen exponent.toNat * stepsPerUnit) := by
          rw [powerOfTen_add]
          exact Nat.mul_le_mul_left 4
            (Nat.mul_le_mul_right _ (Nat.mul_le_mul_right _ (le_decimal nonzero)))
      _ ≤ (4 * magnitude + 2 * spacing magnitude) * powerOfTen (-exponent).toNat := nearest.high
      _ ≤ 6 * (powerOfTwo 1024 * stepsPerUnit) * powerOfTen (-exponent).toNat :=
          Nat.mul_le_mul_right _ (by omega)
  have less : 4 * powerOfTen 330 ≤ 6 * powerOfTwo 1024 := by
    refine Nat.le_of_mul_le_mul_right ?_ stepsPerUnit_pos
    rw [Nat.mul_assoc, Nat.mul_assoc]
    exact Nat.le_of_mul_le_mul_right reached (powerOfTen_pos _)
  exact Nat.not_lt_of_le less (by decide +kernel)

theorem quotientOf_snd_pos (digits : Nat) (exponent : Int) : 0 < (quotientOf digits exponent).2 :=
  powerOfTen_pos _

theorem IsNearest.digits_ne_zero {magnitude digits : Nat} {exponent : Int}
    (positive : magnitude ≠ 0) (isMagnitude : IsMagnitude magnitude)
    (nearest : IsNearest magnitude (quotientOf digits exponent).1 (quotientOf digits exponent).2) :
    digits ≠ 0 := by
  rintro rfl
  have low := nearest.low
  have below := quartersBelow_le magnitude
  have spaced := spacing_le positive isMagnitude
  have denominator := quotientOf_snd_pos 0 exponent
  have none : (quotientOf 0 exponent).1 = 0 := by rw [quotientOf, Nat.zero_mul, Nat.zero_mul]
  rw [none, Nat.mul_zero, Nat.le_zero, Nat.mul_eq_zero] at low
  omega

/-- A decimal number between the midpoints around a double reads back as the double. -/
theorem IsNearest.ofDecimal_eq {magnitude digits : Nat} {exponent : Int} (isNegative : Bool)
    (positive : magnitude ≠ 0) (isMagnitude : IsMagnitude magnitude)
    (nearest : IsNearest magnitude (quotientOf digits exponent).1 (quotientOf digits exponent).2) :
    ofDecimal isNegative digits exponent = finite isNegative magnitude := by
  rw [Double.ofDecimal_eq isNegative (nearest.digits_ne_zero positive isMagnitude)
      (nearest.le_order positive isMagnitude)
      (nearest.order_le positive isMagnitude (nearest.digits_ne_zero positive isMagnitude)),
    roundSteps_eq_of_isNearest (quotientOf_snd_pos _ _) isMagnitude.1 nearest, ofMagnitude,
    if_pos isMagnitude.2]

/-! ### Seventeen digits -/

/-- The first digit of a magnitude does not stand above its place. -/
theorem decimalExponent_le {magnitude : Nat} (positive : magnitude ≠ 0) :
    powerOfTen (decimalExponent magnitude).toNat * stepsPerUnit ≤
      magnitude * powerOfTen (-decimalExponent magnitude).toNat := by
  have one : powerOfTen 0 = 1 := rfl
  by_cases whole : stepsPerUnit ≤ magnitude
  · have wholeDigits : wholePart magnitude ≠ 0 :=
      (Nat.div_pos whole stepsPerUnit_pos).ne'
    have nonempty : 0 < (decimal (wholePart magnitude)).length :=
      List.length_pos_iff.mpr (decimal_ne_nil _)
    have place : (decimalExponent magnitude).toNat = (decimal (wholePart magnitude)).length - 1 := by
      rw [decimalExponent, if_pos whole]
      omega
    have notNegative : (-decimalExponent magnitude).toNat = 0 := by
      rw [decimalExponent, if_pos whole]
      omega
    rw [place, notNegative, one, Nat.mul_one]
    calc powerOfTen ((decimal (wholePart magnitude)).length - 1) * stepsPerUnit
        ≤ wholePart magnitude * stepsPerUnit := Nat.mul_le_mul_right _ (le_decimal wholeDigits)
      _ ≤ magnitude := Nat.div_mul_le_self _ _
  · have reached : stepsPerUnit ≤ magnitude * powerOfTen 329 := by
      calc stepsPerUnit ≤ powerOfTen 329 := by decide +kernel
        _ ≤ magnitude * powerOfTen 329 := Nat.le_mul_of_pos_left _ (Nat.pos_of_ne_zero positive)
    obtain ⟨places, found⟩ : ∃ places, ((List.range 330).find? fun count =>
        stepsPerUnit ≤ magnitude * powerOfTen count) = some places := by
      rw [← Option.isSome_iff_exists, List.find?_isSome]
      exact ⟨329, by decide, decide_eq_true reached⟩
    have enough : stepsPerUnit ≤ magnitude * powerOfTen places := by
      simpa using List.find?_some found
    have place : decimalExponent magnitude = -places := by
      rw [decimalExponent, if_neg whole]
      simp only [found, Option.getD_some]
      exact Int.negOfNat_eq
    rw [place, show (-(places : Int)).toNat = 0 by omega, one, Nat.one_mul,
      show (-(-(places : Int))).toNat = places by omega]
    exact enough

/-- Decimal numbers of 17 digits around a magnitude lie close together. -/
theorem seventeen_digits_close {magnitude : Nat} (positive : magnitude ≠ 0) {exponent : Int}
    (isExponent : exponent = decimalExponent magnitude - 16) :
    powerOfTen 16 * (scaled (4 * magnitude) exponent).2 ≤ (scaled (4 * magnitude) exponent).1 := by
  have first := decimalExponent_le positive
  have places : exponent.toNat + 16 + (-decimalExponent magnitude).toNat =
      (-exponent).toNat + (decimalExponent magnitude).toNat := by omega
  rw [scaled_eq]
  refine Nat.le_of_mul_le_mul_right ?_ (powerOfTen_pos (-decimalExponent magnitude).toNat)
  calc powerOfTen 16 * (4 * stepsPerUnit * powerOfTen exponent.toNat) *
        powerOfTen (-decimalExponent magnitude).toNat
      = 4 * stepsPerUnit * powerOfTen (exponent.toNat + 16 + (-decimalExponent magnitude).toNat) := by
        rw [powerOfTen_add, powerOfTen_add]
        ring
    _ = 4 * powerOfTen (-exponent).toNat *
        (powerOfTen (decimalExponent magnitude).toNat * stepsPerUnit) := by
        rw [places, powerOfTen_add]
        ring
    _ ≤ 4 * powerOfTen (-exponent).toNat *
        (magnitude * powerOfTen (-decimalExponent magnitude).toNat) := Nat.mul_le_mul_left _ first
    _ = 4 * magnitude * powerOfTen (-exponent).toNat *
        powerOfTen (-decimalExponent magnitude).toNat := by ring

/-- The midpoint below a magnitude is not too close to it. -/
theorem le_mul_quartersBelow (magnitude : Nat) : magnitude ≤ 2 ^ 52 * quartersBelow magnitude := by
  obtain ⟨exponent, isGrid, high, -⟩ := exists_spacing_eq magnitude
  unfold quartersBelow
  rw [isGrid]
  split
  · next isPower =>
    have digits : magnitude.log2 < exponent + 53 := by
      refine (Nat.pow_lt_pow_iff_right (a := 2) (by decide)).mp ?_
      calc 2 ^ magnitude.log2 = magnitude := isPower.1.symm
        _ < 2 ^ (exponent + 53) := high
    calc magnitude = 2 ^ magnitude.log2 := isPower.1
      _ ≤ 2 ^ (52 + exponent) := Nat.pow_le_pow_right (by decide) (by omega)
      _ = 2 ^ 52 * 2 ^ exponent := Nat.pow_add 2 52 exponent
  · rw [Nat.pow_add] at high
    omega

/-- Where decimal numbers lie close together, those that are at most half their distance away
from a magnitude lie between its midpoints. -/
theorem isNearest_of_close {magnitude digits : Nat} {exponent : Int} (positive : magnitude ≠ 0)
    (isMagnitude : IsMagnitude magnitude)
    (close : powerOfTen 16 * (scaled (4 * magnitude) exponent).2 ≤ (scaled (4 * magnitude) exponent).1)
    (low : 2 * (scaled (4 * magnitude) exponent).1 ≤
      2 * (digits * (scaled (4 * magnitude) exponent).2) + (scaled (4 * magnitude) exponent).2)
    (high : 2 * (digits * (scaled (4 * magnitude) exponent).2) ≤
      2 * (scaled (4 * magnitude) exponent).1 + (scaled (4 * magnitude) exponent).2) :
    IsNearest magnitude (quotientOf digits exponent).1 (quotientOf digits exponent).2 := by
  rw [scaled_fst digits, mul_scaled, Nat.mul_assoc 4] at low high
  rw [scaled_fst digits, Nat.mul_assoc 4] at close
  have denominator := quotientOf_snd_pos digits exponent
  have belowScaled := Nat.mul_le_mul_right (quotientOf digits exponent).2
    (le_mul_quartersBelow magnitude)
  have spacedScaled := Nat.mul_le_mul_right (quotientOf digits exponent).2
    (quartersBelow_le magnitude)
  have withinScaled := Nat.mul_le_mul_right (quotientOf digits exponent).2
    (spacing_le positive isMagnitude)
  have reached : 0 < magnitude * (quotientOf digits exponent).2 :=
    Nat.mul_pos (Nat.pos_of_ne_zero positive) denominator
  rw [show powerOfTen 16 = 10000000000000000 from rfl] at close
  rw [Nat.mul_assoc] at belowScaled spacedScaled
  have strictLow : (4 * magnitude - quartersBelow magnitude) * (quotientOf digits exponent).2 <
      4 * (quotientOf digits exponent).1 := by
    rw [Nat.sub_mul, Nat.mul_assoc]
    omega
  have strictHigh : 4 * (quotientOf digits exponent).1 <
      (4 * magnitude + 2 * spacing magnitude) * (quotientOf digits exponent).2 := by
    rw [Nat.add_mul, Nat.mul_assoc, Nat.mul_assoc]
    omega
  exact ⟨strictLow.le, strictHigh.le, fun isMidpoint => by omega⟩

/-! ### The shortest number -/

theorem roundQuotient_eq_or (numerator denominator : Nat) :
    roundQuotient numerator denominator = numerator / denominator ∨
      roundQuotient numerator denominator = numerator / denominator + 1 := by
  unfold roundQuotient
  grind

/-- A decimal number that is chosen for its digits reads back. -/
theorem readsBack_of_withDigits? {magnitude count : Nat} {number : DecimalNumber}
    (chosen : withDigits? magnitude count = some number) : readsBack magnitude number := by
  simp only [withDigits?] at chosen
  split_ifs at chosen with both lower upper
  · rw [Bool.and_eq_true] at both
    obtain rfl := Option.some.inj chosen
    rcases roundQuotient_eq_or (scaled (4 * magnitude) (decimalExponent magnitude + 1 - count)).1
      (scaled (4 * magnitude) (decimalExponent magnitude + 1 - count)).2 with isLower | isUpper
    · rw [isLower]
      exact both.1
    · rw [isUpper]
      exact both.2
  · obtain rfl := Option.some.inj chosen
    exact lower
  · obtain rfl := Option.some.inj chosen
    exact upper

theorem withDigits?_eq_none_iff {magnitude count : Nat} :
    withDigits? magnitude count = none ↔
      let exponent := decimalExponent magnitude + 1 - count
      let quotient := (scaled (4 * magnitude) exponent).1 / (scaled (4 * magnitude) exponent).2
      readsBack magnitude ⟨quotient, exponent⟩ = false ∧
        readsBack magnitude ⟨quotient + 1, exponent⟩ = false := by
  simp only [withDigits?]
  split_ifs <;> simp_all

/-- With 17 digits there is a number that reads back. -/
theorem withDigits?_seventeen {magnitude : Nat} (positive : magnitude ≠ 0)
    (isMagnitude : IsMagnitude magnitude) : withDigits? magnitude 17 ≠ none := by
  intro missing
  obtain ⟨notLower, notUpper⟩ := withDigits?_eq_none_iff.mp missing
  rw [show decimalExponent magnitude + 1 - (17 : Nat) = decimalExponent magnitude - 16 by omega]
    at notLower notUpper
  have close := seventeen_digits_close positive rfl
  have reads := fun digits => @isNearest_of_close _ digits _ positive isMagnitude close
  have scale : 0 < (scaled (4 * magnitude) (decimalExponent magnitude - 16)).2 := by
    rw [scaled_eq]
    exact Nat.mul_pos (Nat.mul_pos (by decide) stepsPerUnit_pos) (powerOfTen_pos _)
  have divided := Nat.div_add_mod' (scaled (4 * magnitude) (decimalExponent magnitude - 16)).1
    (scaled (4 * magnitude) (decimalExponent magnitude - 16)).2
  have remainder := Nat.mod_lt (scaled (4 * magnitude) (decimalExponent magnitude - 16)).1 scale
  generalize (scaled (4 * magnitude) (decimalExponent magnitude - 16)).1 /
    (scaled (4 * magnitude) (decimalExponent magnitude - 16)).2 = quotient at *
  have next := Nat.succ_mul quotient (scaled (4 * magnitude) (decimalExponent magnitude - 16)).2
  rw [Bool.eq_false_iff, Ne, readsBack_iff] at notLower notUpper
  -- The nearer one of the two numbers lies between the midpoints.
  rcases Nat.le_total (2 * ((scaled (4 * magnitude) (decimalExponent magnitude - 16)).1 %
      (scaled (4 * magnitude) (decimalExponent magnitude - 16)).2))
      (scaled (4 * magnitude) (decimalExponent magnitude - 16)).2 with nearLower | nearUpper
  · exact notLower (reads quotient (by omega) (by omega))
  · exact notUpper (reads quotient.succ (by omega) (by omega))

theorem readsBack_shortest {magnitude : Nat} (positive : magnitude ≠ 0)
    (isMagnitude : IsMagnitude magnitude) : readsBack magnitude (shortest magnitude) := by
  have found : ((List.range 17).findSome? fun index =>
      withDigits? magnitude (index + 1)) ≠ none := by
    rw [Ne, List.findSome?_eq_none_iff]
    exact fun missing => withDigits?_seventeen positive isMagnitude (missing 16 (by decide))
  obtain ⟨number, chosen⟩ := Option.ne_none_iff_exists'.mp found
  obtain ⟨index, -, fromCount⟩ := List.exists_of_findSome?_eq_some chosen
  rw [shortest, chosen]
  exact readsBack_of_withDigits? fromCount

/-- A double reads back from its shortest decimal number. -/
theorem ofDecimal_shortest (isNegative : Bool) {magnitude : Nat} (positive : magnitude ≠ 0)
    (isMagnitude : IsMagnitude magnitude) :
    ofDecimal isNegative (shortest magnitude).digits (shortest magnitude).exponent =
      finite isNegative magnitude :=
  (readsBack_iff.mp (readsBack_shortest positive isMagnitude)).ofDecimal_eq isNegative positive
    isMagnitude

theorem digits_shortest_ne_zero {magnitude : Nat} (positive : magnitude ≠ 0)
    (isMagnitude : IsMagnitude magnitude) : (shortest magnitude).digits ≠ 0 :=
  (readsBack_iff.mp (readsBack_shortest positive isMagnitude)).digits_ne_zero positive isMagnitude

end Double

end RadioCall
