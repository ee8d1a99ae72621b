/-
This file writes a double with the fewest decimal digits that read back as the same
double; among those it takes the number nearest to the double. The form is positional
for exponents from -4 to 15 and has at least one digit after the point; otherwise one
digit stands before the point and the exponent has a sign and at least two digits.
-/

import RadioCall.Number.Double
import RadioCall.Text.Numeral

namespace RadioCall

/-! ### The fewest digits -/

/-- A decimal number: `digits` times ten to the power of `exponent`. -/
structure DecimalNumber where
  digits : Nat
  exponent : Int
  deriving DecidableEq, Repr

namespace Double

/-- The decimal exponent of the first digit of a positive magnitude. -/
def decimalExponent (magnitude : Nat) : Int :=
  if stepsPerUnit ≤ magnitude then ((decimal (wholePart magnitude)).length : Int) - 1
  else
    let places := (List.range 330).find? fun count => stepsPerUnit ≤ magnitude * powerOfTen count
    Int.negOfNat (places.getD 330)

/-- The quotient of a magnitude, in quarters of a step, by ten to the power of `exponent`,
as numerator and denominator in whole numbers. -/
def scaled (quarters : Nat) (exponent : Int) : Nat × Nat :=
  if 0 ≤ exponent then (quarters, 4 * stepsPerUnit * powerOfTen exponent.toNat)
  else (quarters * powerOfTen (-exponent).toNat, 4 * stepsPerUnit)

/-- Whether a decimal number reads back as the double of a magnitude: it lies between the
midpoints to the neighbours, a midpoint counting if the last binary digit is even. Below
a power of two the neighbour is only half as far. -/
def readsBack (magnitude : Nat) (number : DecimalNumber) : Bool :=
  let grid := spacing magnitude
  let below := if magnitude = powerOfTwo magnitude.log2 ∧ 1 < grid then grid else 2 * grid
  let isEven := magnitude / grid % 2 = 0
  let low := scaled (4 * magnitude - below) number.exponent
  let high := scaled (4 * magnitude + 2 * grid) number.exponent
  if isEven then low.1 ≤ number.digits * low.2 && number.digits * high.2 ≤ high.1
  else low.1 < number.digits * low.2 && number.digits * high.2 < high.1

/-- The decimal number with `count` digits that reads back as the double of a magnitude,
the nearer one if both neighbours do, and the even one in a tie. -/
def withDigits? (magnitude count : Nat) : Option DecimalNumber :=
  let exponent := decimalExponent magnitude + 1 - count
  let (numerator, denominator) := scaled (4 * magnitude) exponent
  let lower : DecimalNumber := ⟨numerator / denominator, exponent⟩
  let upper : DecimalNumber := ⟨numerator / denominator + 1, exponent⟩
  if readsBack magnitude lower && readsBack magnitude upper then
    some ⟨roundQuotient numerator denominator, exponent⟩
  else if readsBack magnitude lower then some lower
  else if readsBack magnitude upper then some upper
  else none

/-- The shortest decimal number that reads back as the double of a positive magnitude. -/
def shortest (magnitude : Nat) : DecimalNumber :=
  ((List.range 17).findSome? fun index => withDigits? magnitude (index + 1)).getD ⟨magnitude, 0⟩

/-! ### Writing -/

/-- A text without the zeros at its end. -/
def dropTrailingZeros (digits : Text) : Text :=
  (digits.reverse.dropWhile (· == '0')).reverse

/-- The exponent part of a number in scientific form. -/
def exponentText (exponent : Int) : Text :=
  let digits := decimal exponent.natAbs
  'e' :: (if exponent < 0 then '-' else '+') ::
    (if digits.length < 2 then '0' :: digits else digits)

/-- A decimal number as it is written, given its digits without trailing zeros and the
exponent of the first digit. -/
def layout (digits : Text) (exponent : Int) : Text :=
  if exponent < -4 ∨ 15 < exponent then
    match digits with
    | first :: second :: others => first :: '.' :: second :: others ++ exponentText exponent
    | _ => digits ++ exponentText exponent
  else if exponent < 0 then
    '0' :: '.' :: List.replicate ((-exponent).toNat - 1) '0' ++ digits
  else
    let whole := digits.take (exponent.toNat + 1)
    let fraction := digits.drop (exponent.toNat + 1)
    whole ++ List.replicate (exponent.toNat + 1 - whole.length) '0' ++
      '.' :: (if fraction.isEmpty then ['0'] else fraction)

/-- A magnitude in decimal digits. -/
def magnitudeText (magnitude : Nat) : Text :=
  if magnitude = 0 then "0.0".toList
  else
    let number := shortest magnitude
    let digits := decimal number.digits
    layout (dropTrailingZeros digits) (number.exponent + digits.length - 1)

/-- The words for the values that have no digits. -/
structure SpecialNames where
  infinity : Text
  notANumber : Text

/-- A double in decimal digits. -/
def text (names : SpecialNames) : Double → Text
  | finite isNegative magnitude => (if isNegative then ['-'] else []) ++ magnitudeText magnitude
  | infinite isNegative => (if isNegative then ['-'] else []) ++ names.infinity
  | notANumber => names.notANumber

/-- The words that messages and phrases use. -/
def plainNames : SpecialNames :=
  ⟨"inf".toList, "nan".toList⟩

end Double

end RadioCall
