/-
This file says which band an altitude is rounded to. Only the exact value counts, not how the
altitude is written, and rounding keeps the order of exact values. Whole numbers of feet that
have at most 53 binary digits are rounded without error, although neither the quotient nor its
sum with a half need be exact. The middle between two bands is a double, so what lies in it or
above is never rounded to less. Below the middle lie only quotients that are at least a
thousandth away from it. As long as doubles are finer than that there is one in between; the
few quotients beyond, where doubles are 512 to the unit, are rounded away from the middle.
-/

import RadioCall.Proofs.Altitude

namespace RadioCall

open Double

namespace Altitude

/-! ### Exact values -/

/-- The exact value of an altitude in steps of a double, if it is finite. -/
def steps? : Altitude → Option Int
  | whole feet => some (feet * stepsPerUnit)
  | measured (.finite isNegative magnitude) => some (signed isNegative magnitude)
  | measured (.infinite _) => none
  | measured .notANumber => none

/-- Whether an altitude is not above another one, by their exact values. -/
def IsAtMost (lower higher : Altitude) : Prop :=
  ∃ low ∈ lower.steps?, ∃ high ∈ higher.steps?, low ≤ high

instance (lower higher : Altitude) : Decidable (lower.IsAtMost higher) :=
  inferInstanceAs (Decidable (∃ low ∈ lower.steps?, ∃ high ∈ higher.steps?, low ≤ high))

/-- The feet that a magnitude in steps is rounded to. -/
def bandFeet (magnitude : Nat) : Nat :=
  wholePart (nearest (bandsOf (roundSteps magnitude bandSize) * bandSize) 1)

theorem signed_natAbs_mul (value : Int) (factor : Nat) :
    signed (value < 0) (value.natAbs * factor) = value * factor := by
  rw [signed]
  rcases Int.lt_or_le value 0 with negative | positive
  · rw [if_pos (decide_eq_true negative), Int.natCast_mul, Int.ofNat_natAbs_of_nonpos negative.le,
      Int.neg_mul, Int.neg_neg]
  · rw [if_neg (by simpa using positive), Int.natCast_mul, Int.natAbs_of_nonneg positive]

/-- An altitude that can be rounded has an exact value, and what it is rounded to depends on the
value only. -/
theorem exists_steps_of_roundToBand {altitude : Altitude} {feet : Int}
    (isRounded : altitude.roundToBand = .ok feet) :
    ∃ isNegative magnitude, altitude.steps? = some (signed isNegative magnitude) ∧
      feet = signed isNegative (bandFeet magnitude) := by
  cases altitude with
  | whole given =>
    obtain ⟨quotient, isQuotient, isRounded⟩ := bind_eq_ok_iff.mp isRounded
    obtain ⟨rounded, isFeet, isRounded⟩ := bind_eq_ok_iff.mp isRounded
    obtain ⟨_, _, isRounded⟩ := bind_eq_ok_iff.mp isRounded
    obtain rfl := Except.ok.inj isRounded
    obtain ⟨-, rfl⟩ := inRange_eq_ok_iff.mp isQuotient
    exact ⟨given < 0, given.natAbs * stepsPerUnit,
      congrArg some (signed_natAbs_mul given stepsPerUnit).symm, (feetOf_eq_ok_iff.mp isFeet).2⟩
  | measured given =>
    cases given with
    | finite isNegative magnitude =>
      exact ⟨isNegative, magnitude, rfl, (feetOf_eq_ok_iff.mp isRounded).2⟩
    | infinite isNegative => cases isRounded
    | notANumber => cases isRounded

/-! ### Order -/

theorem bandFeet_zero : bandFeet 0 = 0 := by decide +kernel

theorem bandFeet_le_bandFeet {first second : Nat} (le : first ≤ second) :
    bandFeet first ≤ bandFeet second := by
  have fewer := bandsOf_le_bandsOf (roundSteps_le_roundSteps bandSize le)
  refine Nat.div_le_div_right (roundSteps_le_roundSteps 1 ?_)
  exact Nat.mul_le_mul_right _ (Nat.mul_le_mul_right _ fewer)

/-- A change of magnitudes that keeps their order, and zero, keeps the order of the numbers with
their signs. -/
theorem signed_le_signed {change : Nat → Nat} (monotone : Monotone change) (zero : change 0 = 0)
    {firstNegative secondNegative : Bool} {first second : Nat}
    (le : signed firstNegative first ≤ signed secondNegative second) :
    signed firstNegative (change first) ≤ signed secondNegative (change second) := by
  cases firstNegative with
  | false =>
    cases secondNegative with
    | false => exact Int.ofNat_le.mpr (monotone (Int.ofNat_le.mp le))
    | true =>
      -- A number without the sign is not below one with it unless both are zero.
      have bothZero : first = 0 ∧ second = 0 := by
        simp only [signed, Bool.false_eq_true, if_false, if_true] at le
        omega
      rw [bothZero.1, bothZero.2, zero]
      rfl
  | true =>
    cases secondNegative with
    | false => exact (Int.neg_nonpos_of_nonneg (Int.natCast_nonneg _)).trans (Int.natCast_nonneg _)
    | true =>
      have reversed : second ≤ first := Int.ofNat_le.mp (Int.neg_le_neg_iff.mp le)
      exact Int.neg_le_neg (Int.ofNat_le.mpr (monotone reversed))

/-- Rounding keeps the order of altitudes, whole or measured. -/
theorem roundToBand_le_roundToBand {lower higher : Altitude} {low high : Int}
    (le : lower.IsAtMost higher) (isLow : lower.roundToBand = .ok low)
    (isHigh : higher.roundToBand = .ok high) : low ≤ high := by
  obtain ⟨lowNegative, lowMagnitude, lowSteps, rfl⟩ := exists_steps_of_roundToBand isLow
  obtain ⟨highNegative, highMagnitude, highSteps, rfl⟩ := exists_steps_of_roundToBand isHigh
  obtain ⟨lowValue, isLowValue, highValue, isHighValue, valuesLe⟩ := le
  obtain rfl := Option.some.inj (lowSteps.symm.trans isLowValue)
  obtain rfl := Option.some.inj (highSteps.symm.trans isHighValue)
  exact signed_le_signed (fun _ _ => bandFeet_le_bandFeet) bandFeet_zero valuesLe

/-! ### Numbers of bands -/

theorem exists_stepsPerUnit_eq : ∃ exponent, stepsPerUnit = 2 ^ (exponent + 10) := by
  -- The exponent is kept as a variable, so that the power is not written out.
  obtain ⟨exponent, isExponent⟩ : ∃ exponent, 1074 = exponent + 10 := ⟨1064, rfl⟩
  refine ⟨exponent, ?_⟩
  unfold stepsPerUnit
  rw [isExponent]
  rfl

/-- A quotient in the middle above a band or beyond is rounded up. -/
theorem le_bandsOf {quotient bands exponent : Nat} (isUnit : stepsPerUnit = 2 ^ (exponent + 1))
    (short : bands + 1 ≤ 2 ^ 53) (above : (2 * bands + 1) * 2 ^ exponent ≤ quotient) :
    bands + 1 ≤ bandsOf quotient := by
  have isHalf : stepsPerUnit / 2 = 2 ^ exponent := by
    rw [isUnit, Nat.pow_succ, Nat.mul_div_cancel _ (by decide)]
  have sum : (bands + 1) * 2 ^ (exponent + 1) * 1 ≤ quotient + stepsPerUnit / 2 := by
    rw [isHalf, Nat.pow_succ]
    linarith
  rw [bandsOf, wholePart, Nat.le_div_iff_mul_le stepsPerUnit_pos]
  calc (bands + 1) * stepsPerUnit = (bands + 1) * 2 ^ (exponent + 1) := by rw [isUnit]
    _ ≤ roundSteps (quotient + stepsPerUnit / 2) 1 :=
      le_roundSteps (by decide) (spacing_dvd_mul_two_pow _ short) sum

/-- A quotient that lies at least one part of a unit below the middle above a band is not rounded
up, as long as doubles around the next band are fine enough for such parts. -/
theorem bandsOf_le {quotient bands half exponent : Nat} (positive : 0 < half)
    (isUnit : stepsPerUnit = 2 * half * 2 ^ exponent)
    (short : 2 * half * (bands + 1) ≤ 2 ^ 53)
    (below : quotient ≤ (2 * half * bands + half - 1) * 2 ^ exponent) :
    bandsOf quotient ≤ bands := by
  have isHalf : stepsPerUnit / 2 = half * 2 ^ exponent := by
    rw [isUnit, Nat.mul_assoc, Nat.mul_div_cancel_left _ (by decide)]
  have sum : quotient + stepsPerUnit / 2 ≤ (2 * half * (bands + 1) - 1) * 2 ^ exponent * 1 :=
    calc quotient + stepsPerUnit / 2
        ≤ (2 * half * bands + half - 1) * 2 ^ exponent + half * 2 ^ exponent := by
          rw [isHalf]
          exact Nat.add_le_add_right below _
      _ = (2 * half * (bands + 1) - 1) * 2 ^ exponent * 1 := by
          rw [← Nat.add_mul, Nat.mul_one, Nat.mul_succ]
          congr 1
          omega
  have rounded := roundSteps_le (by decide) (spacing_dvd_mul_two_pow exponent (by omega)) sum
  rw [bandsOf, wholePart, ← Nat.lt_succ_iff, Nat.div_lt_iff_lt_mul stepsPerUnit_pos]
  refine Nat.lt_of_le_of_lt rounded ?_
  calc (2 * half * (bands + 1) - 1) * 2 ^ exponent
      < 2 * half * (bands + 1) * 2 ^ exponent := by
        refine Nat.mul_lt_mul_of_pos_right (Nat.sub_lt ?_ (by decide)) (Nat.two_pow_pos exponent)
        positivity
    _ = (bands + 1) * stepsPerUnit := by rw [isUnit]; ring

/-! ### Quotients below the middle -/

/-- While doubles are finer than a thousandth, one lies between the middle and the whole numbers
of feet below it. -/
theorem nearest_le_of_few {feet bands exponent : Nat} (isUnit : stepsPerUnit = 2 ^ (exponent + 10))
    (few : bands < 2 ^ 43) (below : feet ≤ 1000 * bands + 499) :
    nearest feet bandSize ≤ (1024 * bands + 511) * 2 ^ exponent := by
  have scaled := Nat.mul_le_mul_right (2 ^ exponent)
    (show feet * 1024 ≤ (1024 * bands + 511) * 1000 by omega)
  refine roundSteps_le (by decide) (spacing_dvd_mul_two_pow exponent (by omega)) ?_
  calc feet * stepsPerUnit = feet * 1024 * 2 ^ exponent := by rw [isUnit]; ring
    _ ≤ (1024 * bands + 511) * 1000 * 2 ^ exponent := scaled
    _ = (1024 * bands + 511) * 2 ^ exponent * bandSize := by rw [bandSize]; ring

theorem roundQuotient_below_middle (bands : Nat) :
    roundQuotient ((1000 * bands + 499) * 512) bandSize = 512 * bands + 255 := by
  rw [bandSize]
  exact roundQuotient_eq (by decide) (by omega) (by omega) fun tie => absurd tie (by omega)

/-- Where doubles are 512 to the unit, the quotient next to the middle is rounded to the double
below the middle. -/
theorem nearest_le_of_many {feet bands exponent : Nat} (isUnit : stepsPerUnit = 2 ^ (exponent + 9))
    (many : 2 ^ 43 ≤ bands) (most : bands < 2 ^ 44) (below : feet ≤ 1000 * bands + 499) :
    nearest feet bandSize ≤ (512 * bands + 255) * 2 ^ exponent := by
  have isNumerator : (1000 * bands + 499) * stepsPerUnit =
      (1000 * bands + 499) * 512 * 2 ^ exponent := by
    rw [isUnit]
    ring
  have isGrid : spacing ((1000 * bands + 499) * stepsPerUnit / bandSize) = 2 ^ exponent := by
    have gridPositive := Nat.two_pow_pos exponent
    rw [isNumerator]
    refine spacing_eq ?_ (.inr ?_)
    · rw [Nat.div_lt_iff_lt_mul (by decide)]
      calc (1000 * bands + 499) * 512 * 2 ^ exponent
          < 2 ^ 53 * 1000 * 2 ^ exponent := Nat.mul_lt_mul_of_pos_right (by omega) gridPositive
        _ = 2 ^ (exponent + 53) * bandSize := by rw [bandSize]; ring
    · rw [Nat.le_div_iff_mul_le (by decide)]
      calc 2 ^ (exponent + 52) * bandSize = 2 ^ 52 * 1000 * 2 ^ exponent := by rw [bandSize]; ring
        _ ≤ (1000 * bands + 499) * 512 * 2 ^ exponent := Nat.mul_le_mul_right _ (by omega)
  calc nearest feet bandSize
      ≤ nearest (1000 * bands + 499) bandSize :=
        roundSteps_le_roundSteps bandSize (Nat.mul_le_mul_right _ below)
    _ = roundQuotient ((1000 * bands + 499) * 512) bandSize * 2 ^ exponent := by
        rw [nearest, roundSteps, isGrid, isNumerator, roundQuotient_mul _ _ (Nat.two_pow_pos _)]
    _ = (512 * bands + 255) * 2 ^ exponent := by rw [roundQuotient_below_middle]

/-! ### Whole numbers of feet -/

/-- The number of bands is exact for numbers of feet with at most 53 binary digits. -/
theorem bandsOf_nearest {feet : Nat} (bounded : feet ≤ 2 ^ 53) :
    bandsOf (nearest feet bandSize) = (feet + 500) / 1000 := by
  have divided := Nat.div_add_mod (feet + 500) 1000
  have remainderSmall := Nat.mod_lt (feet + 500) (show 0 < 1000 by decide)
  generalize (feet + 500) / 1000 = bands at *
  have below : feet ≤ 1000 * bands + 499 := by omega
  have most : bands < 2 ^ 44 := by omega
  obtain ⟨exponent, isUnit⟩ := exists_stepsPerUnit_eq
  refine Nat.le_antisymm ?_ ?_
  · rcases Nat.lt_or_ge bands (2 ^ 43) with few | many
    · have isFine : stepsPerUnit = 2 * 512 * 2 ^ exponent := by rw [isUnit]; ring
      exact bandsOf_le (by decide) isFine (by omega) (nearest_le_of_few isUnit few below)
    · have isCoarse : stepsPerUnit = 2 * 256 * 2 ^ (exponent + 1) := by rw [isUnit]; ring
      exact bandsOf_le (by decide) isCoarse (by omega) (nearest_le_of_many isUnit many most below)
  · cases bands with
    | zero => exact Nat.zero_le _
    | succ bands =>
      have above : (2 * bands + 1) * 1000 ≤ feet * 2 := by omega
      refine le_bandsOf isUnit (by omega) ?_
      refine le_roundSteps (by decide) (spacing_dvd_mul_two_pow _ (by omega)) ?_
      calc (2 * bands + 1) * 2 ^ (exponent + 9) * bandSize
          = (2 * bands + 1) * 1000 * 2 ^ (exponent + 9) := Nat.mul_right_comm _ _ _
        _ ≤ feet * 2 * 2 ^ (exponent + 9) := Nat.mul_le_mul_right _ above
        _ = feet * stepsPerUnit := by rw [isUnit]; ring

/-- Quotients that are not too large are in the range of doubles. -/
theorem nearest_lt_magnitudeBound {numerator denominator : Nat} (positive : 0 < denominator)
    (small : numerator ≤ 2 ^ 54 * denominator) :
    nearest numerator denominator < magnitudeBound := by
  obtain ⟨exponent, isUnit⟩ := exists_stepsPerUnit_eq
  have isDouble : spacing (2 ^ 54 * stepsPerUnit) ∣ 2 ^ 54 * stepsPerUnit := by
    have atUnit : 2 ^ 54 * stepsPerUnit = 2 ^ 53 * 2 ^ (exponent + 11) := by rw [isUnit]; ring
    rw [atUnit]
    exact spacing_dvd_mul_two_pow _ (Nat.le_refl _)
  have inFront : 2 ^ 54 < powerOfTwo 1024 := by decide +kernel
  calc nearest numerator denominator ≤ 2 ^ 54 * stepsPerUnit := by
        refine roundSteps_le positive isDouble ?_
        rw [Nat.mul_right_comm]
        exact Nat.mul_le_mul_right _ small
    _ < magnitudeBound := by
        rw [magnitudeBound_eq]
        exact Nat.mul_lt_mul_of_pos_right inFront stepsPerUnit_pos

/-- Not too many bands are a number of feet that a double holds, as it is a multiple of eight. -/
theorem feetOf_eq_ok {bands : Nat} (isNegative : Bool) (most : bands < 2 ^ 44) :
    feetOf isNegative bands = .ok (signed isNegative (bands * bandSize)) := by
  obtain ⟨exponent, isUnit⟩ := exists_stepsPerUnit_eq
  have isDouble : spacing (bands * bandSize * stepsPerUnit) ∣ bands * bandSize * stepsPerUnit := by
    have atUnit : bands * bandSize * stepsPerUnit = bands * 125 * 2 ^ (exponent + 13) := by
      rw [isUnit, bandSize]
      ring
    rw [atUnit]
    exact spacing_dvd_mul_two_pow _ (by omega)
  have isExact : nearest (bands * bandSize) 1 = bands * bandSize * stepsPerUnit := by
    have rounded := roundSteps_mul_self Nat.one_pos isDouble
    rwa [Nat.mul_one] at rounded
  have bounded : nearest (bands * bandSize) 1 < magnitudeBound := by
    refine nearest_lt_magnitudeBound Nat.one_pos ?_
    rw [bandSize]
    omega
  refine feetOf_eq_ok_iff.mpr ⟨bounded, ?_⟩
  rw [isExact, wholePart, Nat.mul_div_cancel _ stepsPerUnit_pos]

/-- Whether a number of feet is the multiple of the band size that is nearest to another one; of
two equally near ones it is the one further away from zero. -/
structure IsNearestBand (feet rounded : Int) : Prop where
  multiple : (bandSize : Int) ∣ rounded
  nearest (other : Int) : (bandSize : Int) ∣ other →
    (feet - rounded).natAbs ≤ (feet - other).natAbs
  away (other : Int) : (bandSize : Int) ∣ other →
    (feet - rounded).natAbs = (feet - other).natAbs → other.natAbs ≤ rounded.natAbs

/-- Adding half a band to the size of a number of feet and taking whole bands gives the nearest
band. -/
theorem isNearestBand (feet : Int) :
    IsNearestBand feet (feet.sign * (1000 * ((feet.natAbs + 500) / 1000 : Nat))) := by
  obtain ⟨bands, isMultiple⟩ : ∃ bands : Int,
      feet.sign * (1000 * ((feet.natAbs + 500) / 1000 : Nat)) = 1000 * bands :=
    ⟨_, Int.mul_left_comm _ _ _⟩
  have close : (feet - 1000 * bands).natAbs ≤ 500 ∧
      ((feet - 1000 * bands).natAbs = 500 → (1000 * bands).natAbs = feet.natAbs + 500) := by
    rw [← isMultiple]
    rcases Int.lt_trichotomy feet 0 with negative | rfl | positive
    · rw [Int.sign_eq_neg_one_of_neg negative]
      omega
    · decide
    · rw [Int.sign_eq_one_of_pos positive]
      omega
  rw [isMultiple]
  -- Another multiple lies a whole band away, so at least half a band from the number of feet.
  refine ⟨⟨bands, rfl⟩, ?_, ?_⟩
  · rintro _ ⟨other, rfl⟩
    rw [bandSize]
    omega
  · rintro _ ⟨other, rfl⟩
    rw [bandSize]
    omega

theorem eq_natAbs_mul_of_signed {isNegative : Bool} {magnitude factor : Nat} {value : Int}
    (isValue : signed isNegative magnitude = value * factor) :
    magnitude = value.natAbs * factor := by
  have sizes := congrArg Int.natAbs isValue
  rw [Int.natAbs_mul, Int.natAbs_natCast] at sizes
  rw [← sizes]
  cases isNegative <;> simp [signed]

/-- The sign of a value is the sign of its number of bands, unless both are zero. -/
theorem signed_bands {isNegative : Bool} {feet : Int}
    (isValue : signed isNegative (feet.natAbs * stepsPerUnit) = feet * stepsPerUnit) :
    signed isNegative ((feet.natAbs + 500) / 1000 * bandSize) =
      feet.sign * (1000 * ((feet.natAbs + 500) / 1000 : Nat)) := by
  have unitPositive : (0 : Int) < stepsPerUnit := Int.natCast_pos.mpr stepsPerUnit_pos
  have sizeNonneg : (0 : Int) ≤ (feet.natAbs * stepsPerUnit : Nat) := Int.natCast_nonneg _
  generalize feet.natAbs * stepsPerUnit = size at *
  rcases Int.lt_trichotomy feet 0 with negative | rfl | positive
  · have valueNegative := Int.mul_neg_of_neg_of_pos negative unitPositive
    cases isNegative with
    | false =>
      rw [← isValue, signed, if_neg Bool.false_ne_true] at valueNegative
      exact absurd sizeNonneg (Int.not_le.mpr valueNegative)
    | true =>
      rw [Int.sign_eq_neg_one_of_neg negative, signed, if_pos rfl, bandSize]
      omega
  · cases isNegative <;> decide
  · have valuePositive := Int.mul_pos positive unitPositive
    cases isNegative with
    | false =>
      rw [Int.sign_eq_one_of_pos positive, signed, if_neg Bool.false_ne_true, bandSize]
      omega
    | true =>
      rw [← isValue, signed, if_pos rfl] at valuePositive
      exact absurd (Int.neg_nonpos_of_nonneg sizeNonneg) (Int.not_le.mpr valuePositive)

theorem roundToBand_whole {feet : Int} (bounded : feet.natAbs ≤ 2 ^ 53) :
    (whole feet).roundToBand =
      .ok (signed (feet < 0) ((feet.natAbs + 500) / 1000 * bandSize)) := by
  have isQuotient : inRange (nearest feet.natAbs bandSize) = .ok (nearest feet.natAbs bandSize) :=
    inRange_eq_ok_iff.mpr ⟨nearest_lt_magnitudeBound (by decide) (by rw [bandSize]; omega), rfl⟩
  have isGiven : inRange (nearest feet.natAbs 1) = .ok (nearest feet.natAbs 1) :=
    inRange_eq_ok_iff.mpr ⟨nearest_lt_magnitudeBound (by decide) (by omega), rfl⟩
  have few : (feet.natAbs + 500) / 1000 < 2 ^ 44 := by omega
  have isFeet := feetOf_eq_ok (feet < 0) few
  rw [← bandsOf_nearest bounded] at isFeet ⊢
  refine bind_eq_ok_iff.mpr ⟨_, isQuotient, bind_eq_ok_iff.mpr ⟨_, isFeet, ?_⟩⟩
  exact bind_eq_ok_iff.mpr ⟨_, isGiven, rfl⟩

theorem roundToBand_finite {isNegative : Bool} {feet : Nat} (bounded : feet ≤ 2 ^ 53) :
    (measured (.finite isNegative (feet * stepsPerUnit))).roundToBand =
      .ok (signed isNegative ((feet + 500) / 1000 * bandSize)) := by
  have few : (feet + 500) / 1000 < 2 ^ 44 := by omega
  rw [← feetOf_eq_ok _ few, ← bandsOf_nearest bounded]
  rfl

/-- A whole number of feet with at most 53 binary digits is rounded to the nearest band, halves
away from zero, be it given as a whole number or as a double. -/
theorem roundToBand_of_natAbs_le {altitude : Altitude} {feet : Int}
    (isWhole : altitude.steps? = some (feet * stepsPerUnit)) (bounded : feet.natAbs ≤ 2 ^ 53) :
    ∃ rounded, altitude.roundToBand = .ok rounded ∧
      rounded = feet.sign * (1000 * ((feet.natAbs + 500) / 1000 : Nat)) ∧
      IsNearestBand feet rounded := by
  refine ⟨_, ?_, rfl, isNearestBand feet⟩
  cases altitude with
  | whole given =>
    have sameFeet := Option.some.inj isWhole
    obtain rfl : given = feet :=
      Int.eq_of_mul_eq_mul_right (Int.natCast_ne_zero.mpr stepsPerUnit_pos.ne') sameFeet
    rw [roundToBand_whole bounded, signed_bands (signed_natAbs_mul given stepsPerUnit)]
  | measured given =>
    cases given with
    | finite isNegative magnitude =>
      have isValue := Option.some.inj isWhole
      obtain rfl := eq_natAbs_mul_of_signed isValue
      rw [roundToBand_finite bounded, signed_bands isValue]
    | infinite isNegative => cases isWhole
    | notANumber => cases isWhole

/-- The greatest number of feet just below the middle between two bands, with the sign. -/
theorem roundToBand_of_natAbs_le_below_middle :
    (whole (-9007199254740499)).steps? = some ((-9007199254740499 : Int) * stepsPerUnit) ∧
      (-9007199254740499 : Int).natAbs ≤ 2 ^ 53 ∧
      (whole (-9007199254740499)).roundToBand = .ok (-9007199254740000) := by
  obtain ⟨rounded, isRounded, rfl, -⟩ :=
    @roundToBand_of_natAbs_le (whole (-9007199254740499)) (-9007199254740499) rfl (by decide)
  exact ⟨rfl, by decide, isRounded⟩

end Altitude

end RadioCall
