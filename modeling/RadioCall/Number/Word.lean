/-
This file lists the English number words and their values. A word spells a number
below ten, one of the numbers from ten to nineteen, a multiple of ten, or one of the
two scales, hundred and thousand, which multiply what was said before them.
-/

import RadioCall.Text.CodeTable

namespace RadioCall

/-- An English word that takes part in a spoken number. -/
inductive NumberWord
  /-- The words from zero to nine. -/
  | unit (value : Fin 10)
  /-- The words from ten to nineteen, by what they add to ten. -/
  | teen (excess : Fin 10)
  /-- The words from twenty to ninety, by the tens beyond twenty. -/
  | tens (excess : Fin 8)
  | hundred
  | thousand
  deriving DecidableEq, Repr

namespace NumberWord

/-! ### Spelling -/

/-- The spellings of the numbers below ten. -/
def unitSpellings : List Text :=
  ["zero".toList, "one".toList, "two".toList, "three".toList, "four".toList, "five".toList,
   "six".toList, "seven".toList, "eight".toList, "nine".toList]

/-- The spellings of the numbers from ten to nineteen. -/
def teenSpellings : List Text :=
  ["ten".toList, "eleven".toList, "twelve".toList, "thirteen".toList, "fourteen".toList,
   "fifteen".toList, "sixteen".toList, "seventeen".toList, "eighteen".toList, "nineteen".toList]

/-- The spellings of the multiples of ten from twenty to ninety. -/
def tensSpellings : List Text :=
  ["twenty".toList, "thirty".toList, "forty".toList, "fifty".toList, "sixty".toList,
   "seventy".toList, "eighty".toList, "ninety".toList]

/-- How a number word is written. -/
def spelling : NumberWord → Text
  | unit value => unitSpellings.getD value.val []
  | teen excess => teenSpellings.getD excess.val []
  | tens excess => tensSpellings.getD excess.val []
  | hundred => "hundred".toList
  | thousand => "thousand".toList

/-- All number words. -/
def all : List NumberWord :=
  (List.finRange 10).map unit ++ (List.finRange 10).map teen ++ (List.finRange 8).map tens ++
    [hundred, thousand]

/-- The number word that is written so, in small letters. -/
def ofText? (text : Text) : Option NumberWord :=
  all.find? fun word => word.spelling == text

/-! ### Value -/

/-- The value of a word, or the factor that a scale multiplies by. -/
def value : NumberWord → Nat
  | unit value => value.val
  | teen excess => 10 + excess.val
  | tens excess => 20 + 10 * excess.val
  | hundred => 100
  | thousand => 1000

/-- Whether a word is a scale. -/
def isScale : NumberWord → Bool
  | hundred => true
  | thousand => true
  | _ => false

/-- Whether a word spells a single digit. -/
def isUnit : NumberWord → Bool
  | unit _ => true
  | _ => false

/-- Whether a word is a multiple of ten from twenty on. -/
def isTens : NumberWord → Bool
  | tens _ => true
  | _ => false

end NumberWord

end RadioCall
