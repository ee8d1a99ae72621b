/-
This file names the powers of two and of ten, the scales of doubles and of decimal
numerals.
-/

namespace RadioCall

/-- A power of two. -/
def powerOfTwo (exponent : Nat) : Nat :=
  Nat.pow 2 exponent

/-- A power of ten. -/
def powerOfTen (exponent : Nat) : Nat :=
  Nat.pow 10 exponent

theorem powerOfTwo_pos (exponent : Nat) : 0 < powerOfTwo exponent :=
  Nat.two_pow_pos exponent

theorem powerOfTwo_add (first second : Nat) :
    powerOfTwo (first + second) = powerOfTwo first * powerOfTwo second :=
  Nat.pow_add 2 first second

theorem powerOfTen_pos (exponent : Nat) : 0 < powerOfTen exponent :=
  Nat.pow_pos (by decide)

theorem powerOfTen_add (first second : Nat) :
    powerOfTen (first + second) = powerOfTen first * powerOfTen second :=
  Nat.pow_add 10 first second

theorem powerOfTen_le_powerOfTen {first second : Nat} (le : first ≤ second) :
    powerOfTen first ≤ powerOfTen second :=
  Nat.pow_le_pow_right (by decide) le

end RadioCall
