/-
This file reads numbers that are given as text. Blanks around the number are allowed,
digits may be of any script, and a single underscore may stand between two digits. The
four information separators are blanks elsewhere but not around a number.
-/

import RadioCall.Number.Double
import RadioCall.Text.LetterCase
import RadioCall.Text.Numeral
import RadioCall.Text.Words

namespace RadioCall

/-! ### Preparation -/

/-- Whether a character may surround a number. -/
def surroundsNumber (character : Char) : Bool :=
  isBlank character && !(0x1c ≤ character.toNat && character.toNat ≤ 0x1f)

/-- A digit of any script as a plain digit, other characters unchanged. -/
def plainDigit (character : Char) : Char :=
  match digitValue? character with
  | some value => Char.ofNat ('0'.toNat + value)
  | none => character

/-- The text of a number without what surrounds it, in plain digits. -/
def numberText (text : Text) : Text :=
  ((text.dropWhile surroundsNumber).reverse.dropWhile surroundsNumber).reverse.map plainDigit

/-- Removes the underscores if each stands between two digits; `after` tells whether a
digit stands before the text. -/
def dropUnderscores? (after : Bool) : Text → Option Text
  | [] => some []
  | '_' :: rest =>
    if after && beginsWith Char.isDigit rest then dropUnderscores? false rest else none
  | character :: rest => (dropUnderscores? character.isDigit rest).map (character :: ·)

/-- Takes a sign from the front of a text, and tells whether it is a minus. -/
def takeSign : Text → Bool × Text
  | '-' :: rest => (true, rest)
  | '+' :: rest => (false, rest)
  | text => (false, text)

/-! ### Whole numbers -/

/-- Reads a whole number with an optional sign; nothing if the text is none or has too
many digits. -/
def wholeNumber? (text : Text) : Option Int := do
  let (isNegative, rest) := takeSign (numberText text)
  let digits ← dropUnderscores? false rest
  if !digits.isEmpty && digits.all Char.isDigit && digits.length ≤ numeralLimit then
    some (Double.signed isNegative (numeralValue digits))
  else none

/-! ### Doubles -/

/-- Reads the exponent part of a number, absent or a letter e with a signed numeral. -/
def exponentPart? : Text → Option Int
  | [] => some 0
  | letter :: rest =>
    let (isNegative, digits) := takeSign rest
    if (letter = 'e' || letter = 'E') && !digits.isEmpty && digits.all Char.isDigit then
      some (Double.signed isNegative (numeralValue digits))
    else none

/-- Reads the digits of a number: a whole part and a fraction, not both empty, and an
exponent. -/
def unsignedDouble? (isNegative : Bool) (text : Text) : Option Double :=
  let whole := text.takeWhile Char.isDigit
  let (fraction, rest) :=
    match text.dropWhile Char.isDigit with
    | '.' :: rest => (rest.takeWhile Char.isDigit, rest.dropWhile Char.isDigit)
    | rest => ([], rest)
  if whole.isEmpty && fraction.isEmpty then none
  else
    (exponentPart? rest).map fun exponent =>
      Double.ofDecimal isNegative (numeralValue (whole ++ fraction)) (exponent - fraction.length)

/-- Reads a double, also infinity and the value that is not a number, by their names. -/
def double? (text : Text) : Option Double := do
  let (isNegative, rest) := takeSign (← dropUnderscores? false (numberText text))
  let name := lower rest
  if name = "inf".toList || name = "infinity".toList then some (.infinite isNegative)
  else if name = "nan".toList then some .notANumber
  else unsignedDouble? isNegative rest

end RadioCall
