/-
This file rounds altitudes to bands of a thousand feet and groups them into stacks. The
rounding is done in doubles: the altitude is divided by the band size, a half is added
and the whole part is taken, and the product goes through a double once more. A stack
begins at its highest altitude and takes in all that lie less than 9900 feet below it.
-/

import RadioCall.Document.Basic

namespace RadioCall

/-! ### Altitudes -/

/-- An altitude in feet. -/
inductive Altitude
  | whole (feet : Int)
  | measured (feet : Double)
  deriving DecidableEq, Repr

/-- The altitude that a document gives; truth values count as zero and one. -/
def Document.altitude : Document → Except Fault Altitude
  | .scalar (.boolean value) => .ok (.whole (if value then 1 else 0))
  | .scalar (.integer feet) => .ok (.whole feet)
  | .scalar (.double feet) => .ok (.measured feet)
  | _ => .error .wrongKind

namespace Altitude

/-! ### Rounding -/

/-- The height of a band, in feet. -/
def bandSize : Nat := 1000

/-- A quotient in steps of a double, if it is in range. -/
def inRange (magnitude : Nat) : Except Fault Nat :=
  if magnitude < Double.magnitudeBound then .ok magnitude else .error .beyondRange

/-- The number of bands, from the altitude divided by the band size, in steps: a half is
added in doubles and the whole part is taken. -/
def bandsOf (quotient : Nat) : Nat :=
  Double.wholePart (Double.roundSteps (quotient + Double.stepsPerUnit / 2) 1)

/-- A number of bands in feet, as a double gives it. -/
def feetOf (isNegative : Bool) (bands : Nat) : Except Fault Int := do
  let magnitude ← inRange (Double.nearest (bands * bandSize) 1)
  .ok (Double.signed isNegative (Double.wholePart magnitude))

/-- An altitude rounded to the nearest band, halves away from zero. -/
def roundToBand : Altitude → Except Fault Int
  | whole feet => do
    let quotient ← inRange (Double.nearest feet.natAbs bandSize)
    let rounded ← feetOf (feet < 0) (bandsOf quotient)
    let _ ← inRange (Double.nearest feet.natAbs 1)
    .ok rounded
  | measured (.finite isNegative magnitude) =>
    feetOf isNegative (bandsOf (Double.roundSteps magnitude bandSize))
  | measured (.infinite _) => .error .beyondRange
  | measured .notANumber => .error .notANumber

end Altitude

/-! ### Stacks -/

/-- A layer of contacts: the rounded altitude of the highest one, and how many there are. -/
structure Stack where
  altitude : Int
  count : Nat
  deriving DecidableEq, Repr

namespace Stack

/-- A contact this far or further below the top of a stack starts a new one, in feet. -/
def separation : Int := 9900

/-- Divides rounded altitudes, highest first, into stacks, below a stack that is still
open. -/
def divideBelow (top : Stack) : List Int → List Stack
  | [] => [top]
  | altitude :: lower =>
    if top.altitude - separation < altitude then
      divideBelow { top with count := top.count + 1 } lower
    else top :: divideBelow ⟨altitude, 1⟩ lower

/-- Divides rounded altitudes, highest first, into stacks. -/
def divide : List Int → List Stack
  | [] => []
  | altitude :: lower => divideBelow ⟨altitude, 1⟩ lower

/-- Rounded altitudes, highest first. -/
def highestFirst (altitudes : List Int) : List Int :=
  altitudes.mergeSort fun first second => second ≤ first

/-- The stacks of contacts at rounded altitudes in any order, highest first. -/
def ofRounded (altitudes : List Int) : List Stack :=
  divide (highestFirst altitudes)

/-- The stacks of contacts at the given altitudes, highest first. -/
def ofAltitudes (altitudes : List Altitude) : Except Fault (List Stack) :=
  ofRounded <$> altitudes.mapM Altitude.roundToBand

end Stack

end RadioCall
