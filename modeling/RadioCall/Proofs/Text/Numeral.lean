/-
This file shows that decimal numerals read back as the numbers that they were written for.
A numeral is that of all but the last digit with the last digit after it, so what holds of
single digits and goes from a numeral to the next longer one holds of all numerals.
-/

import Mathlib.Data.List.Induction
import RadioCall.Text.Numeral

namespace RadioCall

/-! ### Digits of numerals -/

theorem decimal_of_lt {number : Nat} (small : number < 10) : decimal number = [number.digitChar] :=
  Nat.toDigits_of_lt_base small

theorem decimal_of_le {number : Nat} (large : 10 ≤ number) :
    decimal number = decimal (number / 10) ++ [(number % 10).digitChar] :=
  Nat.toDigits_of_base_le (by decide) large

theorem decimal_ne_nil (number : Nat) : decimal number ≠ [] :=
  Nat.toDigits_ne_nil

/-- What holds of the ten digits holds of every character of a numeral. -/
theorem forall_mem_decimal {holds : Char → Prop}
    (digits : ∀ digit < 10, holds (Nat.digitChar digit))
    (number : Nat) : ∀ character ∈ decimal number, holds character := by
  induction number using Nat.strongRecOn with
  | ind number ih =>
    intro character member
    rcases Nat.lt_or_ge number 10 with small | large
    · rw [decimal_of_lt small, List.mem_singleton] at member
      rw [member]
      exact digits number small
    · rw [decimal_of_le large, List.mem_append, List.mem_singleton] at member
      rcases member with inFront | isLast
      · exact ih (number / 10) (Nat.div_lt_self (by omega) (by decide)) character inFront
      · rw [isLast]
        exact digits _ (Nat.mod_lt _ (by decide))

theorem digitValue?_digitChar : ∀ digit < 10, digitValue? (Nat.digitChar digit) = some digit := by
  decide

theorem isNumeral_decimal (number : Nat) : isNumeral (decimal number) := by
  have digits : ∀ character ∈ decimal number, isDecimalDigit character := by
    refine forall_mem_decimal (fun digit small => ?_) number
    rw [isDecimalDigit, digitValue?_digitChar digit small]
    rfl
  have nonempty : (decimal number).isEmpty = false :=
    List.isEmpty_eq_false_iff.mpr (decimal_ne_nil number)
  rw [isNumeral, nonempty, Bool.not_false, Bool.true_and, List.all_eq_true]
  exact digits

/-! ### Reading numerals -/

theorem positionalValue_append_singleton (digits : List Nat) (last : Nat) :
    positionalValue (digits ++ [last]) = positionalValue digits * 10 + last := by
  rw [positionalValue, List.foldl_append]
  rfl

/-- A numeral has the value that it was written for. -/
theorem numeralValue_decimal (number : Nat) : numeralValue (decimal number) = number := by
  induction number using Nat.strongRecOn with
  | ind number ih =>
    rcases Nat.lt_or_ge number 10 with small | large
    · rw [decimal_of_lt small, numeralValue, List.filterMap_cons,
        digitValue?_digitChar number small]
      exact Nat.zero_add number
    · have lastDigit := digitValue?_digitChar _ (Nat.mod_lt number (by decide))
      have front := ih (number / 10) (Nat.div_lt_self (by omega) (by decide))
      rw [numeralValue] at front
      rw [decimal_of_le large, numeralValue, List.filterMap_append, List.filterMap_cons, lastDigit,
        List.filterMap_nil, positionalValue_append_singleton, front]
      omega

theorem numeralValue_zeros_append (count : Nat) (digits : Text) :
    numeralValue (List.replicate count '0' ++ digits) = numeralValue digits := by
  induction count with
  | zero => rfl
  | succ count ih => exact ih

theorem numeralValue_append_zeros (digits : Text) (count : Nat) :
    numeralValue (digits ++ List.replicate count '0') =
      numeralValue digits * powerOfTen count := by
  induction count with
  | zero => rw [List.replicate_zero, List.append_nil, show powerOfTen 0 = 1 from rfl, Nat.mul_one]
  | succ count ih =>
    rw [numeralValue] at ih
    rw [List.replicate_succ', ← List.append_assoc, numeralValue, List.filterMap_append,
      show ['0'].filterMap digitValue? = [0] from rfl, positionalValue_append_singleton, ih,
      powerOfTen_add]
    exact Nat.mul_assoc _ _ _

theorem CodeTable.digitValue?_lt {table : CodeTable} {code digit : Nat}
    (isDigit : table.digitValue? code = some digit) : digit < 10 := by
  induction table with
  | nil => cases isDigit
  | cons range rest ih =>
    rw [digitValue?] at isDigit
    split at isDigit
    · cases isDigit
    · split at isDigit
      · rw [← Option.some.inj isDigit]
        exact Nat.mod_lt _ (by decide)
      · exact ih isDigit

theorem positionalValue_lt {digits : List Nat} (areDigits : ∀ digit ∈ digits, digit < 10) :
    positionalValue digits < powerOfTen digits.length := by
  induction digits using List.reverseRecOn with
  | nil => exact Nat.one_pos
  | append_singleton digits last ih =>
    obtain ⟨front, lastSmall⟩ := List.forall_mem_append.mp areDigits
    have frontSmall := ih front
    have lastDigit := lastSmall last List.mem_cons_self
    rw [positionalValue_append_singleton, List.length_append, List.length_singleton, powerOfTen_add,
      show powerOfTen 1 = 10 from rfl]
    omega

/-- Digits spell a number of no more digits. -/
theorem numeralValue_lt (digits : Text) : numeralValue digits < powerOfTen digits.length := by
  refine Nat.lt_of_lt_of_le (positionalValue_lt fun digit member => ?_)
    (powerOfTen_le_powerOfTen (List.length_filterMap_le digitValue? digits))
  obtain ⟨character, -, isDigit⟩ := List.mem_filterMap.mp member
  exact CodeTable.digitValue?_lt isDigit

/-- The numeral of a positive number does not begin with a zero. -/
theorem head?_decimal_ne_zero {number : Nat} (positive : number ≠ 0) :
    (decimal number).head? ≠ some '0' := by
  induction number using Nat.strongRecOn with
  | ind number ih =>
    rcases Nat.lt_or_ge number 10 with small | large
    · have digits : ∀ digit < 10, digit ≠ 0 → digit.digitChar ≠ '0' := by decide
      rw [decimal_of_lt small, List.head?_cons]
      exact fun isZero => digits number small positive (Option.some.inj isZero)
    · have front := ih (number / 10) (Nat.div_lt_self (by omega) (by decide)) (by omega)
      obtain ⟨first, others, split⟩ := List.exists_cons_of_ne_nil (decimal_ne_nil (number / 10))
      rw [split] at front
      rw [decimal_of_le large, split]
      exact front

/-! ### Lengths of numerals -/

theorem length_decimal_le_iff {number length : Nat} (positive : 0 < length) :
    (decimal number).length ≤ length ↔ number < powerOfTen length :=
  Nat.length_toDigits_le_iff (by decide) positive

/-- Numerals of two or more digits are those of the numbers from ten on. -/
theorem one_lt_length_decimal_iff {number : Nat} : 1 < (decimal number).length ↔ 10 ≤ number := by
  have single : (decimal number).length ≤ 1 ↔ number < powerOfTen 1 :=
    length_decimal_le_iff (by decide)
  rw [show powerOfTen 1 = 10 from rfl] at single
  omega

end RadioCall
