/-
This file says which altitudes can be rounded to bands, and how large what comes out can be.
Rounding keeps the order of altitudes, so no double is rounded to more than the greatest one is,
and that is still in range. Only the infinities and the value that is not a number cannot be
rounded.
-/

import RadioCall.Altitude
import RadioCall.Proofs.Checked
import RadioCall.Proofs.Document.Readable
import RadioCall.Proofs.Number.Rounding

namespace RadioCall

namespace Altitude

/-! ### Rounding -/

theorem bandsOf_le_bandsOf {first second : Nat} (le : first ≤ second) :
    bandsOf first ≤ bandsOf second :=
  Nat.div_le_div_right (Double.roundSteps_le_roundSteps 1 (Nat.add_le_add_right le _))

theorem inRange_eq_ok_iff {magnitude result : Nat} :
    inRange magnitude = .ok result ↔ magnitude < Double.magnitudeBound ∧ result = magnitude := by
  unfold inRange
  split
  · next bounded => rw [Except.ok.injEq, and_iff_right bounded, eq_comm]
  · next unbounded => simp [unbounded]

/-- A number of bands is some number of feet unless it is out of range. -/
theorem feetOf_eq_ok_iff {isNegative : Bool} {bands : Nat} {feet : Int} :
    feetOf isNegative bands = .ok feet ↔
      Double.nearest (bands * bandSize) 1 < Double.magnitudeBound ∧
        feet = Double.signed isNegative
          (Double.wholePart (Double.nearest (bands * bandSize) 1)) := by
  rw [feetOf, bind_eq_ok_iff]
  constructor
  · rintro ⟨magnitude, isMagnitude, isFeet⟩
    obtain ⟨bounded, rfl⟩ := inRange_eq_ok_iff.mp isMagnitude
    exact ⟨bounded, (Except.ok.inj isFeet).symm⟩
  · rintro ⟨bounded, rfl⟩
    exact ⟨_, inRange_eq_ok_iff.mpr ⟨bounded, rfl⟩, rfl⟩

end Altitude

end RadioCall
