/-
This file writes whole numbers as decimal numerals and reads them back. Both ways
stop at numerals of more than 4300 digits: a longer numeral is neither written nor
read, and the fault says which of the two was tried.
-/

import RadioCall.Fault
import RadioCall.Number.Power
import RadioCall.Text.DecimalDigit

namespace RadioCall

/-- The most digits that a numeral may have. -/
def numeralLimit : Nat := 4300

/-! ### Writing -/

/-- The decimal numeral of a number, of any length. -/
def decimal (value : Nat) : Text :=
  Nat.toDigits 10 value

/-- The decimal numeral of an integer, of any length. -/
def signedDecimal : Int → Text
  | .ofNat value => decimal value
  | .negSucc value => '-' :: decimal (value + 1)

/-- The decimal numeral of a number, within the limit. -/
def writeNatural (value : Nat) : Except Fault Text :=
  if value < powerOfTen numeralLimit then .ok (decimal value) else .error .numberTooLong

/-- The decimal numeral of an integer, within the limit; the sign is not counted. -/
def writeInteger (value : Int) : Except Fault Text :=
  if value.natAbs < powerOfTen numeralLimit then .ok (signedDecimal value)
  else .error .numberTooLong

/-! ### Reading -/

/-- The number that a list of decimal digits spells. -/
def positionalValue (digits : List Nat) : Nat :=
  digits.foldl (fun value digit => value * 10 + digit) 0

/-- Whether a text is a decimal numeral: at least one digit, and digits only. -/
def isNumeral (text : Text) : Bool :=
  !text.isEmpty && text.all isDecimalDigit

/-- The number that a text of digits spells; a character without a value is passed over. -/
def numeralValue (text : Text) : Nat :=
  positionalValue (text.filterMap digitValue?)

/-- Reads a text of digits, within the limit; leading zeros are counted. -/
def readNumeral (text : Text) : Except Fault Nat :=
  if text.length ≤ numeralLimit then .ok (numeralValue text)
  else .error (.numeralTooLong text.length)

end RadioCall
