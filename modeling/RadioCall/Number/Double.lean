/-
This file defines double-precision numbers exactly. Every finite double is a whole
multiple of the least positive one, 2 to the power of -1074, so a finite double is held
as that multiple with a sign. Results are rounded once, from the exact quotient, to the
nearest double; a tie goes to the even neighbour.
-/

import RadioCall.Number.Power

namespace RadioCall

/-- A double-precision number. The magnitude of a finite one counts steps of 2 to the
power of -1074. -/
inductive Double
  | finite (isNegative : Bool) (magnitude : Nat)
  | infinite (isNegative : Bool)
  | notANumber
  deriving DecidableEq, Repr

namespace Double

/-! ### Rounding -/

/-- How many steps make one. -/
@[irreducible]
def stepsPerUnit : Nat := powerOfTwo 1074

/-- The magnitudes of finite doubles lie below this bound. -/
@[irreducible]
def magnitudeBound : Nat := powerOfTwo 2098

-- Both numbers are too long to be written out, so proofs use what is said here of them.

theorem stepsPerUnit_pos : 0 < stepsPerUnit := by
  unfold stepsPerUnit
  exact powerOfTwo_pos 1074

theorem magnitudeBound_eq : magnitudeBound = powerOfTwo 1024 * stepsPerUnit := by
  unfold magnitudeBound stepsPerUnit
  exact powerOfTwo_add 1024 1074

/-- A quotient rounded to the nearest whole number, a tie to the even one. -/
def roundQuotient (numerator denominator : Nat) : Nat :=
  let quotient := numerator / denominator
  let twice := 2 * (numerator % denominator)
  if twice < denominator then quotient
  else if denominator < twice then quotient + 1
  else if quotient % 2 = 0 then quotient
  else quotient + 1

/-- The distance between neighbouring doubles around a magnitude: 53 binary digits are
kept. -/
def spacing (magnitude : Nat) : Nat :=
  powerOfTwo (magnitude.log2 - 52)

/-- The magnitude of the double nearest to a quotient of steps. -/
def roundSteps (numerator denominator : Nat) : Nat :=
  let grid := spacing (numerator / denominator)
  roundQuotient numerator (denominator * grid) * grid

/-- The magnitude of the double nearest to a quotient. -/
def nearest (numerator denominator : Nat) : Nat :=
  roundSteps (numerator * stepsPerUnit) denominator

/-- The double of a sign and a magnitude, infinite beyond the bound. -/
def ofMagnitude (isNegative : Bool) (magnitude : Nat) : Double :=
  if magnitude < magnitudeBound then finite isNegative magnitude else infinite isNegative

/-- The double nearest to a decimal number, `digits` times ten to the power of
`exponent`. Numbers far outside the range are decided by their order of magnitude. -/
def ofDecimal (isNegative : Bool) (digits : Nat) (exponent : Int) : Double :=
  let order : Int := (Nat.toDigits 10 digits).length + exponent
  if digits = 0 ∨ order < -330 then finite isNegative 0
  else if 330 < order then infinite isNegative
  else if 0 ≤ exponent then ofMagnitude isNegative (nearest (digits * powerOfTen exponent.toNat) 1)
  else ofMagnitude isNegative (nearest digits (powerOfTen (-exponent).toNat))

/-! ### Whole numbers -/

/-- The whole part of a magnitude. -/
def wholePart (magnitude : Nat) : Nat :=
  magnitude / stepsPerUnit

/-- A whole number with a sign. -/
def signed (isNegative : Bool) (value : Nat) : Int :=
  if isNegative then -(value : Int) else value

/-- Whether a double is zero, of either sign. -/
def isZero : Double → Bool
  | finite _ 0 => true
  | _ => false

end Double

end RadioCall
