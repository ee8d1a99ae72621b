/-
This file divides a run of number words into the numbers that were spoken, and gives
each its value. Two digits said one after the other are two numbers; a digit after a
multiple of ten or after a scale completes the number before it. A scale multiplies
the number before it, unless that number is the last of several separate digits: the
scale then belongs to all of them and stands on its own.
-/

import RadioCall.Number.Word
import RadioCall.Text.Numeral
import RadioCall.Text.Words

namespace RadioCall

/-- The words of one spoken number, in order. -/
abbrev Cardinal := List NumberWord

namespace Cardinal

/-! ### Grouping -/

/-- Whether a number is a single digit. -/
def isSingleUnit : Cardinal → Bool
  | [word] => word.isUnit
  | _ => false

/-- Whether a word belongs to the last of the numbers before it. The numbers are given
latest first and their words latest first. -/
def joins (earlier : List Cardinal) (word : NumberWord) : Bool :=
  match earlier with
  | (previous :: others) :: before =>
    if word.isScale then
      if previous = .unit 0 then false
      else if isSingleUnit (previous :: others) && (before.head?.any isSingleUnit) then false
      else !previous.isScale || (previous = .hundred && word = .thousand)
    else if word.isUnit then
      word ≠ .unit 0 && (previous.isTens || previous.isScale)
    else previous.isScale
  | _ => false

/-- Adds a word to the numbers before it: to the last of them, or as a new number. -/
def add (earlier : List Cardinal) (word : NumberWord) : List Cardinal :=
  if joins earlier word then
    match earlier with
    | last :: before => (word :: last) :: before
    | [] => [[word]]
  else [word] :: earlier

/-- The numbers that a run of number words spells, in spoken order. -/
def divide (spoken : List NumberWord) : List Cardinal :=
  ((spoken.foldl add []).map List.reverse).reverse

/-! ### Value -/

/-- A number under construction: the thousands already said, and the part after them,
absent until one of its words is said. -/
structure Tally where
  thousands : Nat
  current : Option Nat

/-- Takes one more word into the number. A scale on its own counts as one of it. -/
def Tally.take (sum : Tally) : NumberWord → Tally
  | .hundred => { sum with current := some (sum.current.getD 1 * 100) }
  | .thousand => ⟨sum.thousands + sum.current.getD 1 * 1000, none⟩
  | word => { sum with current := some (sum.current.getD 0 + word.value) }

/-- The value of a spoken number. -/
def value (cardinal : Cardinal) : Nat :=
  let sum := cardinal.foldl Tally.take ⟨0, none⟩
  sum.thousands + sum.current.getD 0

/-! ### Writing -/

/-- Whether a number begins with a scale; such words are kept as words. -/
def isBareScale (cardinal : Cardinal) : Bool :=
  cardinal.head?.any NumberWord.isScale

/-- A spoken number as it is written: in digits, or in words if it begins with a scale. -/
def written (cardinal : Cardinal) : Except Fault Text :=
  if cardinal.isBareScale then .ok (sentence (cardinal.map NumberWord.spelling))
  else writeNatural cardinal.value

/-- A run of number words as it is written, its numbers separated by single spaces. -/
def writtenRun (spoken : List NumberWord) : Except Fault Text :=
  sentence <$> (divide spoken).mapM written

end Cardinal

end RadioCall
