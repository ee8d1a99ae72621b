/-
This file proves which quotients round to a given double. Rounding goes to the nearest
multiple of the spacing around the quotient. So a double is what all quotients round to that
lie between the midpoints to its neighbours, a midpoint counting if the last binary digit is
even; below a power of two the neighbour is only half as far. How a quotient is written does
not matter, and what rounding gives is a multiple of the spacing around itself.
-/

import Mathlib.Tactic.Linarith
import Mathlib.Tactic.Ring
import RadioCall.Number.Double

namespace RadioCall

namespace Double

/-! ### Whole numbers -/

/-- A quotient rounds to a number if it lies between the midpoints to the next ones, where a
midpoint counts for even numbers. -/
theorem roundQuotient_eq {numerator denominator rounded : Nat} (positive : 0 < denominator)
    (low : 2 * (rounded * denominator) ≤ 2 * numerator + denominator)
    (high : 2 * numerator ≤ 2 * (rounded * denominator) + denominator)
    (tie : 2 * (rounded * denominator) = 2 * numerator + denominator ∨
      2 * numerator = 2 * (rounded * denominator) + denominator → rounded % 2 = 0) :
    roundQuotient numerator denominator = rounded := by
  have divided := Nat.div_add_mod' numerator denominator
  have remainderSmall := Nat.mod_lt numerator positive
  rw [roundQuotient]
  generalize numerator / denominator = quotient at *
  generalize numerator % denominator = remainder at *
  subst divided
  have atLeast : quotient ≤ rounded := by
    by_contra! less
    have := Nat.mul_le_mul_right denominator less
    rw [Nat.succ_mul] at this
    omega
  have atMost : rounded ≤ quotient + 1 := by
    by_contra! more
    have := Nat.mul_le_mul_right denominator more
    rw [Nat.succ_mul, Nat.succ_mul] at this
    omega
  rcases (by omega : rounded = quotient ∨ rounded = quotient + 1) with rfl | rfl
  · grind
  · rw [Nat.succ_mul] at *
    grind

/-- Rounding a quotient does not depend on how the quotient is written. -/
theorem roundQuotient_mul (numerator denominator : Nat) {factor : Nat} (positive : 0 < factor) :
    roundQuotient (numerator * factor) (denominator * factor) =
      roundQuotient numerator denominator := by
  have scaled : 2 * (numerator % denominator * factor) = 2 * (numerator % denominator) * factor :=
    (Nat.mul_assoc 2 _ factor).symm
  rw [roundQuotient, roundQuotient, Nat.mul_div_mul_right _ _ positive, Nat.mul_mod_mul_right,
    scaled]
  simp only [Nat.mul_lt_mul_right positive]

/-- A quotient of less than a bound does not round to more than the bound. -/
theorem roundQuotient_le {numerator denominator bound : Nat}
    (less : numerator / denominator < bound) : roundQuotient numerator denominator ≤ bound := by
  unfold roundQuotient
  grind

theorem roundSteps_mul (numerator denominator : Nat) {factor : Nat} (positive : 0 < factor) :
    roundSteps (numerator * factor) (denominator * factor) = roundSteps numerator denominator := by
  simp only [roundSteps, Nat.mul_div_mul_right _ _ positive]
  rw [Nat.mul_right_comm denominator factor, roundQuotient_mul _ _ positive]

/-! ### Spacing -/

/-- Magnitudes of 53 binary digits are a power of two apart, and so are shorter ones, which
are one step apart. -/
theorem spacing_eq {magnitude exponent : Nat} (high : magnitude < 2 ^ (exponent + 53))
    (low : exponent = 0 ∨ 2 ^ (exponent + 52) ≤ magnitude) : spacing magnitude = 2 ^ exponent := by
  rcases Nat.eq_zero_or_pos magnitude with rfl | positive
  · have none : exponent = 0 := low.resolve_right (by simp)
    rw [none]
    decide
  · have most : magnitude.log2 < exponent + 53 := (Nat.log2_lt positive.ne').mpr high
    have least : exponent = 0 ∨ exponent + 52 ≤ magnitude.log2 :=
      low.imp_right (Nat.le_log2 positive.ne').mpr
    rw [spacing, show magnitude.log2 - 52 = exponent by omega]
    rfl

theorem exists_spacing_eq (magnitude : Nat) :
    ∃ exponent, spacing magnitude = 2 ^ exponent ∧ magnitude < 2 ^ (exponent + 53) ∧
      (exponent = 0 ∨ 2 ^ (exponent + 52) ≤ magnitude) := by
  rcases Nat.lt_or_ge magnitude (2 ^ 53) with short | long
  · exact ⟨0, spacing_eq short (.inl rfl), short, .inl rfl⟩
  · have positive : magnitude ≠ 0 := by omega
    have digits : 53 ≤ magnitude.log2 := (Nat.le_log2 positive).mpr long
    have high : magnitude < 2 ^ (magnitude.log2 - 52 + 53) := by
      rw [show magnitude.log2 - 52 + 53 = magnitude.log2 + 1 by omega]
      exact Nat.lt_log2_self
    have low : 2 ^ (magnitude.log2 - 52 + 52) ≤ magnitude := by
      rw [show magnitude.log2 - 52 + 52 = magnitude.log2 by omega]
      exact Nat.log2_self_le positive
    exact ⟨magnitude.log2 - 52, rfl, high, .inr low⟩

/-! ### Doubles -/

/-- Whether a magnitude is one that finite doubles have: a multiple of its spacing below the
bound. -/
def IsMagnitude (magnitude : Nat) : Prop :=
  spacing magnitude ∣ magnitude ∧ magnitude < magnitudeBound

/-- At most 53 binary digits, however many zeros follow them, are a multiple of their spacing. -/
theorem spacing_dvd_mul_two_pow {count : Nat} (exponent : Nat) (bounded : count ≤ 2 ^ 53) :
    spacing (count * 2 ^ exponent) ∣ count * 2 ^ exponent := by
  have most : count * 2 ^ exponent ≤ 2 ^ (exponent + 53) := by
    rw [Nat.add_comm, Nat.pow_add]
    exact Nat.mul_le_mul_right _ bounded
  obtain ⟨other, isOther, -, low⟩ := exists_spacing_eq (count * 2 ^ exponent)
  rw [isOther]
  rcases Nat.lt_or_ge exponent other with coarser | finer
  · -- The number is the bound of its digits, a power of two.
    have least := low.resolve_left (by omega)
    have next : other + 52 ≤ exponent + 53 :=
      (Nat.pow_le_pow_iff_right (by decide)).mp (least.trans most)
    rw [show exponent + 53 = other + 52 by omega] at most
    rw [Nat.le_antisymm most least]
    exact Nat.pow_dvd_pow 2 (Nat.le_add_right other 52)
  · exact Dvd.dvd.mul_left (Nat.pow_dvd_pow 2 finer) count

/-- What rounding gives is a multiple of the spacing around itself. -/
theorem spacing_dvd_roundSteps (numerator denominator : Nat) :
    spacing (roundSteps numerator denominator) ∣ roundSteps numerator denominator := by
  obtain ⟨exponent, isGrid, high, -⟩ := exists_spacing_eq (numerator / denominator)
  have bounded : roundQuotient numerator (denominator * 2 ^ exponent) ≤ 2 ^ 53 := by
    refine roundQuotient_le ?_
    rw [← Nat.div_div_eq_div_mul, Nat.div_lt_iff_lt_mul (Nat.two_pow_pos exponent),
      ← Nat.pow_add, Nat.add_comm 53]
    exact high
  rw [roundSteps, isGrid]
  exact spacing_dvd_mul_two_pow exponent bounded

/-- A multiple of its spacing is not changed by rounding. -/
theorem roundSteps_mul_self {magnitude denominator : Nat} (positive : 0 < denominator)
    (multiple : spacing magnitude ∣ magnitude) :
    roundSteps (magnitude * denominator) denominator = magnitude := by
  have stepPositive : 0 < denominator * spacing magnitude := Nat.mul_pos positive (powerOfTwo_pos _)
  rw [roundSteps, Nat.mul_div_cancel _ positive]
  generalize spacing magnitude = grid at *
  obtain ⟨count, rfl⟩ := multiple
  have scaled : grid * count * denominator = count * (denominator * grid) := by ring
  have unchanged : roundQuotient (count * (denominator * grid)) (denominator * grid) = count :=
    roundQuotient_eq stepPositive (by omega) (by omega) (by omega)
  rw [scaled, unchanged, Nat.mul_comm]

/-! ### Order -/

theorem le_roundQuotient (numerator denominator : Nat) :
    numerator / denominator ≤ roundQuotient numerator denominator := by
  unfold roundQuotient
  grind

/-- Of two quotients with one denominator the greater one does not round to less. -/
theorem roundQuotient_le_roundQuotient {first second : Nat} (denominator : Nat)
    (le : first ≤ second) :
    roundQuotient first denominator ≤ roundQuotient second denominator := by
  rcases Nat.lt_or_eq_of_le (Nat.div_le_div_right le : first / denominator ≤ second / denominator)
    with less | same
  · exact (roundQuotient_le less).trans (le_roundQuotient second denominator)
  · have firstDivided := Nat.div_add_mod' first denominator
    have secondDivided := Nat.div_add_mod' second denominator
    have remainders : first % denominator ≤ second % denominator := by
      rw [same] at firstDivided
      omega
    rw [roundQuotient, roundQuotient, same]
    grind

/-- Rounding to doubles keeps the order of quotients with one denominator. -/
theorem roundSteps_le_roundSteps {first second : Nat} (denominator : Nat) (le : first ≤ second) :
    roundSteps first denominator ≤ roundSteps second denominator := by
  have quotients : first / denominator ≤ second / denominator := Nat.div_le_div_right le
  obtain ⟨fine, isFine, fineHigh, fineLow⟩ := exists_spacing_eq (first / denominator)
  obtain ⟨coarse, isCoarse, coarseHigh, coarseLow⟩ := exists_spacing_eq (second / denominator)
  rcases Nat.lt_trichotomy fine coarse with finer | rfl | coarser
  · -- The power of two at which the spacing grows lies between the two.
    have upper : roundSteps first denominator ≤ 2 ^ (fine + 53) := by
      have bounded : first / (denominator * 2 ^ fine) < 2 ^ 53 := by
        rwa [← Nat.div_div_eq_div_mul, Nat.div_lt_iff_lt_mul (Nat.two_pow_pos fine),
          ← Nat.pow_add, Nat.add_comm 53]
      rw [roundSteps, isFine, Nat.add_comm fine, Nat.pow_add]
      exact Nat.mul_le_mul_right _ (roundQuotient_le bounded)
    have lower : 2 ^ (coarse + 52) ≤ roundSteps second denominator := by
      have bounded : 2 ^ 52 ≤ second / (denominator * 2 ^ coarse) := by
        rw [← Nat.div_div_eq_div_mul, Nat.le_div_iff_mul_le (Nat.two_pow_pos coarse),
          ← Nat.pow_add, Nat.add_comm 52]
        exact coarseLow.resolve_left (by omega)
      rw [roundSteps, isCoarse, Nat.add_comm coarse, Nat.pow_add]
      exact Nat.mul_le_mul_right _ (bounded.trans (le_roundQuotient _ _))
    exact upper.trans ((Nat.pow_le_pow_right (by decide) (by omega)).trans lower)
  · rw [roundSteps, roundSteps, isFine, isCoarse]
    exact Nat.mul_le_mul_right _ (roundQuotient_le_roundQuotient _ le)
  · have least := fineLow.resolve_left (by omega)
    have short : fine + 52 < coarse + 53 :=
      (Nat.pow_lt_pow_iff_right (by decide)).mp (least.trans_lt (quotients.trans_lt coarseHigh))
    omega

/-- A quotient that is no greater than a double does not round to more than the double. -/
theorem roundSteps_le {numerator denominator bound : Nat} (positive : 0 < denominator)
    (multiple : spacing bound ∣ bound) (le : numerator ≤ bound * denominator) :
    roundSteps numerator denominator ≤ bound :=
  calc roundSteps numerator denominator
      ≤ roundSteps (bound * denominator) denominator := roundSteps_le_roundSteps denominator le
    _ = bound := roundSteps_mul_self positive multiple

/-- A quotient that is no less than a double does not round to less than the double. -/
theorem le_roundSteps {numerator denominator bound : Nat} (positive : 0 < denominator)
    (multiple : spacing bound ∣ bound) (le : bound * denominator ≤ numerator) :
    bound ≤ roundSteps numerator denominator :=
  calc bound = roundSteps (bound * denominator) denominator :=
        (roundSteps_mul_self positive multiple).symm
    _ ≤ roundSteps numerator denominator := roundSteps_le_roundSteps denominator le

/-- Four times the distance from a magnitude to the midpoint below it. Below a power of two
the neighbour is half as far, unless the two are one step apart. -/
def quartersBelow (magnitude : Nat) : Nat :=
  if magnitude = powerOfTwo magnitude.log2 ∧ 1 < spacing magnitude then spacing magnitude
  else 2 * spacing magnitude

/-- Whether a quotient lies between the midpoints from a magnitude to its neighbours, where a
midpoint counts if the last binary digit of the magnitude is even. -/
structure IsNearest (magnitude numerator denominator : Nat) : Prop where
  low : (4 * magnitude - quartersBelow magnitude) * denominator ≤ 4 * numerator
  high : 4 * numerator ≤ (4 * magnitude + 2 * spacing magnitude) * denominator
  tie : (4 * magnitude - quartersBelow magnitude) * denominator = 4 * numerator ∨
      4 * numerator = (4 * magnitude + 2 * spacing magnitude) * denominator →
    magnitude / spacing magnitude % 2 = 0

theorem quartersBelow_le (magnitude : Nat) : quartersBelow magnitude ≤ 2 * spacing magnitude := by
  unfold quartersBelow
  split <;> omega

section Nearest

variable {count exponent numerator denominator : Nat}

/-- The midpoints around a multiple of its spacing, in terms of the spacing. -/
theorem IsNearest.bounds (isGrid : spacing (count * 2 ^ exponent) = 2 ^ exponent)
    (nearest : IsNearest (count * 2 ^ exponent) numerator denominator) :
    2 * (count * (denominator * 2 ^ exponent)) ≤ 2 * numerator + denominator * 2 ^ exponent ∧
      2 * numerator ≤ 2 * (count * (denominator * 2 ^ exponent)) + denominator * 2 ^ exponent ∧
      (2 * (count * (denominator * 2 ^ exponent)) = 2 * numerator + denominator * 2 ^ exponent ∨
        2 * numerator = 2 * (count * (denominator * 2 ^ exponent)) + denominator * 2 ^ exponent →
        count % 2 = 0) := by
  have below := quartersBelow_le (count * 2 ^ exponent)
  obtain ⟨low, high, tie⟩ := nearest
  rw [isGrid] at below high tie
  have belowScaled := Nat.mul_le_mul_right denominator below
  have atCount : count * 2 ^ exponent * denominator = count * (denominator * 2 ^ exponent) := by ring
  rw [Nat.sub_mul, Nat.mul_assoc 4, atCount] at low tie
  rw [Nat.add_mul, Nat.mul_assoc 4, atCount, Nat.mul_assoc 2, Nat.mul_comm (2 ^ exponent)] at high tie
  rw [Nat.mul_assoc 2, Nat.mul_comm (2 ^ exponent)] at belowScaled
  rw [Nat.mul_div_cancel count (Nat.two_pow_pos exponent)] at tie
  generalize denominator * 2 ^ exponent = step at *
  generalize count * step = whole at *
  generalize quartersBelow (count * 2 ^ exponent) * denominator = gap at *
  omega

/-- With the spacing of the magnitude, rounding goes to the magnitude. -/
theorem IsNearest.roundSteps_eq (positive : 0 < denominator)
    (isGrid : spacing (count * 2 ^ exponent) = 2 ^ exponent)
    (nearest : IsNearest (count * 2 ^ exponent) numerator denominator)
    (sameGrid : spacing (numerator / denominator) = 2 ^ exponent) :
    roundSteps numerator denominator = count * 2 ^ exponent := by
  obtain ⟨low, high, tie⟩ := nearest.bounds isGrid
  rw [roundSteps, sameGrid,
    roundQuotient_eq (Nat.mul_pos positive (Nat.two_pow_pos exponent)) low high tie]

/-- Below a power of two the spacing is half as wide, and so is the distance to the midpoint;
there too rounding goes to the power. -/
theorem IsNearest.roundSteps_eq_power (positive : 0 < denominator)
    (nearest : IsNearest (2 ^ 52 * 2 ^ (exponent + 1)) numerator denominator)
    (less : numerator < 2 ^ 52 * 2 ^ (exponent + 1) * denominator) :
    roundSteps numerator denominator = 2 ^ 52 * 2 ^ (exponent + 1) := by
  have power : 2 ^ 52 * 2 ^ (exponent + 1) = 2 ^ (exponent + 53) := by ring
  have isGrid : spacing (2 ^ 52 * 2 ^ (exponent + 1)) = 2 ^ (exponent + 1) := by
    rw [power]
    exact spacing_eq (Nat.pow_lt_pow_right (by decide) (by omega))
      (.inr (Nat.pow_le_pow_right (by decide) (by omega)))
  have below : quartersBelow (2 ^ 52 * 2 ^ (exponent + 1)) = 2 ^ (exponent + 1) := by
    rw [quartersBelow, isGrid, if_pos]
    refine ⟨?_, Nat.one_lt_two_pow (Nat.succ_ne_zero exponent)⟩
    rw [power, Nat.log2_two_pow]
    rfl
  have low := nearest.low
  rw [below, Nat.sub_mul] at low
  have halved : 2 ^ 52 * 2 ^ (exponent + 1) * denominator =
      2 ^ 53 * (denominator * 2 ^ exponent) := by ring
  have halvedGap : 2 ^ (exponent + 1) * denominator = 2 * (denominator * 2 ^ exponent) := by ring
  have scaled : 4 * (2 ^ 52 * 2 ^ (exponent + 1)) * denominator =
      4 * (2 ^ 53 * (denominator * 2 ^ exponent)) := by ring
  rw [scaled, halvedGap] at low
  rw [halved] at less
  have finer : spacing (numerator / denominator) = 2 ^ exponent := by
    refine spacing_eq ?_ (.inr ?_)
    · rw [Nat.div_lt_iff_lt_mul positive]
      calc numerator < 2 ^ 53 * (denominator * 2 ^ exponent) := less
        _ = 2 ^ (exponent + 53) * denominator := by ring
    · rw [Nat.le_div_iff_mul_le positive]
      calc 2 ^ (exponent + 52) * denominator = 2 ^ 52 * (denominator * 2 ^ exponent) := by ring
        _ ≤ numerator := by
          generalize denominator * 2 ^ exponent = step at *
          omega
  have stepPositive := Nat.mul_pos positive (Nat.two_pow_pos exponent)
  rw [roundSteps, finer, @roundQuotient_eq _ _ (2 ^ 53) stepPositive, power, Nat.pow_add,
    Nat.mul_comm]
  all_goals
    generalize denominator * 2 ^ exponent = step at *
    omega

end Nearest

/-- A quotient between the midpoints around a magnitude rounds to the magnitude. -/
theorem roundSteps_eq_of_isNearest {magnitude numerator denominator : Nat}
    (positive : 0 < denominator) (multiple : spacing magnitude ∣ magnitude)
    (nearest : IsNearest magnitude numerator denominator) :
    roundSteps numerator denominator = magnitude := by
  obtain ⟨exponent, isGrid, high, low⟩ := exists_spacing_eq magnitude
  rw [isGrid] at multiple
  obtain ⟨count, rfl⟩ := exists_eq_mul_left_of_dvd multiple
  rw [Nat.pow_add, Nat.mul_comm (2 ^ exponent)] at high low
  replace high := Nat.lt_of_mul_lt_mul_right high
  replace low := low.imp_right fun scaled => Nat.le_of_mul_le_mul_right scaled (Nat.two_pow_pos _)
  obtain ⟨lowBound, highBound, -⟩ := nearest.bounds isGrid
  have stepPositive := Nat.mul_pos positive (Nat.two_pow_pos exponent)
  have highScaled := Nat.mul_le_mul_right (denominator * 2 ^ exponent) high
  rw [Nat.succ_mul] at highScaled
  have quotientHigh : numerator / denominator < 2 ^ (exponent + 53) := by
    rw [Nat.div_lt_iff_lt_mul positive]
    calc numerator < 2 ^ 53 * (denominator * 2 ^ exponent) := by
          generalize denominator * 2 ^ exponent = step at *
          generalize count * step = whole at *
          omega
      _ = 2 ^ (exponent + 53) * denominator := by ring
  by_cases fromLow : exponent = 0 ∨ 2 ^ (exponent + 52) ≤ numerator / denominator
  · exact nearest.roundSteps_eq positive isGrid (spacing_eq quotientHigh fromLow)
  · -- The quotient has fewer digits than the magnitude, which is then a power of two.
    obtain ⟨notZero, less⟩ := not_or.mp fromLow
    obtain ⟨finer, rfl⟩ := Nat.exists_eq_succ_of_ne_zero notZero
    rw [Nat.le_div_iff_mul_le positive, Nat.not_le, Nat.pow_add, Nat.mul_comm (2 ^ _)] at less
    have isPower : count = 2 ^ 52 := by
      refine Nat.le_antisymm (Nat.le_of_not_lt fun more => ?_) (low.resolve_left notZero)
      have moreScaled := Nat.mul_le_mul_right (denominator * 2 ^ finer.succ) more
      rw [Nat.succ_mul] at moreScaled
      rw [Nat.mul_assoc, Nat.mul_comm _ denominator] at less
      generalize denominator * 2 ^ finer.succ = step at *
      generalize count * step = whole at *
      omega
    subst isPower
    exact nearest.roundSteps_eq_power positive less

/-! ### Decimal numbers -/

/-- Whether a double is one that results can be: a finite one has a magnitude of its kind. -/
def IsProper : Double → Prop
  | finite _ magnitude => IsMagnitude magnitude
  | _ => True

/-- A decimal number as a quotient of steps. -/
def quotientOf (digits : Nat) (exponent : Int) : Nat × Nat :=
  (digits * powerOfTen exponent.toNat * stepsPerUnit, powerOfTen (-exponent).toNat)

/-- The order of magnitude of a decimal number: the place of its first digit. -/
def orderOf (digits : Nat) (exponent : Int) : Int :=
  (Nat.toDigits 10 digits).length + exponent

/-- A decimal number within the range becomes the double that its quotient rounds to. -/
theorem ofDecimal_eq (isNegative : Bool) {digits : Nat} {exponent : Int} (positive : digits ≠ 0)
    (low : -330 ≤ orderOf digits exponent) (high : orderOf digits exponent ≤ 330) :
    ofDecimal isNegative digits exponent =
      ofMagnitude isNegative
        (roundSteps (quotientOf digits exponent).1 (quotientOf digits exponent).2) := by
  have inRange : ¬(digits = 0 ∨ orderOf digits exponent < -330) := by omega
  have bounded : ¬330 < orderOf digits exponent := by omega
  have one : powerOfTen 0 = 1 := rfl
  rw [orderOf] at inRange bounded
  rw [ofDecimal, if_neg inRange, if_neg bounded, quotientOf]
  by_cases whole : 0 ≤ exponent
  · rw [if_pos whole, nearest, show (-exponent).toNat = 0 by omega, one]
  · rw [if_neg whole, nearest, show exponent.toNat = 0 by omega, one, Nat.mul_one]

theorem isProper_ofMagnitude (isNegative : Bool) {magnitude : Nat}
    (multiple : spacing magnitude ∣ magnitude) : (ofMagnitude isNegative magnitude).IsProper := by
  by_cases bounded : magnitude < magnitudeBound
  · rw [ofMagnitude, if_pos bounded]
    exact ⟨multiple, bounded⟩
  · rw [ofMagnitude, if_neg bounded]
    trivial

/-- Every decimal number becomes a proper double. -/
theorem isProper_ofDecimal (isNegative : Bool) (digits : Nat) (exponent : Int) :
    (ofDecimal isNegative digits exponent).IsProper := by
  have isZero : IsMagnitude 0 := by
    rw [IsMagnitude, magnitudeBound_eq]
    exact ⟨dvd_zero _, Nat.mul_pos (powerOfTwo_pos 1024) stepsPerUnit_pos⟩
  rw [ofDecimal]
  split
  · exact isZero
  · split
    · trivial
    · split <;> exact isProper_ofMagnitude isNegative (spacing_dvd_roundSteps _ _)

theorem orderOf_mul_ten {digits : Nat} (exponent : Int) (positive : digits ≠ 0) :
    orderOf (digits * 10) (exponent - 1) = orderOf digits exponent := by
  have longer : (Nat.toDigits 10 (digits * 10)).length = (Nat.toDigits 10 digits).length + 1 := by
    rw [Nat.toDigits_of_base_le (by decide) (by omega), List.length_append,
      Nat.mul_div_cancel _ (by decide)]
    rfl
  rw [orderOf, orderOf, longer]
  omega

theorem roundSteps_quotientOf_mul_ten (digits : Nat) (exponent : Int) :
    roundSteps (quotientOf (digits * 10) (exponent - 1)).1 (quotientOf (digits * 10) (exponent - 1)).2 =
      roundSteps (quotientOf digits exponent).1 (quotientOf digits exponent).2 := by
  have ten : powerOfTen 1 = 10 := rfl
  rw [quotientOf, quotientOf, ← ten]
  rcases Int.lt_or_le exponent 1 with small | positive
  · have whole : (exponent - 1).toNat = exponent.toNat := by omega
    have places : (-(exponent - 1)).toNat = (-exponent).toNat + 1 := by omega
    rw [whole, places, powerOfTen_add, Nat.mul_right_comm digits, Nat.mul_right_comm,
      roundSteps_mul _ _ (powerOfTen_pos 1)]
  · have whole : exponent.toNat = 1 + (exponent - 1).toNat := by omega
    have places : (-(exponent - 1)).toNat = (-exponent).toNat := by omega
    rw [whole, places, powerOfTen_add, Nat.mul_assoc digits]

/-- A decimal number can be written with further zeros. -/
theorem ofDecimal_mul_ten (isNegative : Bool) {digits : Nat} (exponent : Int)
    (positive : digits ≠ 0) :
    ofDecimal isNegative (digits * 10) (exponent - 1) = ofDecimal isNegative digits exponent := by
  have sameOrder := orderOf_mul_ten exponent positive
  by_cases inRange : -330 ≤ orderOf digits exponent ∧ orderOf digits exponent ≤ 330
  · rw [ofDecimal_eq isNegative positive inRange.1 inRange.2,
      ofDecimal_eq isNegative (by omega) (by omega) (by omega), roundSteps_quotientOf_mul_ten]
  · rw [orderOf, orderOf] at sameOrder
    rw [orderOf] at inRange
    rw [ofDecimal, ofDecimal, sameOrder]
    split_ifs <;> grind

theorem ofDecimal_mul_powerOfTen (isNegative : Bool) {digits : Nat} (exponent : Int)
    (positive : digits ≠ 0) (zeros : Nat) :
    ofDecimal isNegative (digits * powerOfTen zeros) (exponent - zeros) =
      ofDecimal isNegative digits exponent := by
  induction zeros with
  | zero => rw [show powerOfTen 0 = 1 from rfl, Nat.mul_one, Int.natCast_zero, Int.sub_zero]
  | succ zeros ih =>
    have front : digits * powerOfTen zeros ≠ 0 := Nat.mul_ne_zero positive (powerOfTen_pos zeros).ne'
    rw [powerOfTen_add, show powerOfTen 1 = 10 from rfl, ← Nat.mul_assoc, Int.natCast_add,
      Int.natCast_one, ← Int.sub_sub, ofDecimal_mul_ten isNegative _ front, ih]

end Double

end RadioCall
