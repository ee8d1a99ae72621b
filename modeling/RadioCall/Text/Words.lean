/-
This file divides a text into the maximal runs of characters that pass a test. The
words of a text are its runs without blanks, so the kind and the number of blanks
between two words do not matter. A sentence joins words again with single spaces.
-/

import RadioCall.Text.Blank

namespace RadioCall

/-! ### Runs -/

/-- Puts a character in front of the first run. -/
def extendFirst (character : Char) : List Text → List Text
  | [] => [[character]]
  | first :: others => (character :: first) :: others

/-- Whether a text begins with a character that passes the test. -/
def beginsWith (inside : Char → Bool) : Text → Bool
  | [] => false
  | character :: _ => inside character

/-- The maximal runs of characters that pass the test, in order. A character opens a
run of its own unless its right neighbour passes the test too. -/
def runsOf (inside : Char → Bool) : Text → List Text
  | [] => []
  | character :: rest =>
    if inside character then
      if beginsWith inside rest then extendFirst character (runsOf inside rest)
      else [character] :: runsOf inside rest
    else runsOf inside rest

/-! ### Words -/

/-- The words of a text: its maximal runs without blanks. -/
def words (text : Text) : List Text :=
  runsOf (fun character => !isBlank character) text

/-- The words joined with single spaces. -/
def sentence (tokens : List Text) : Text :=
  [' '].intercalate tokens

/-- A text without the blanks at its two ends. -/
def trim (text : Text) : Text :=
  ((text.dropWhile isBlank).reverse.dropWhile isBlank).reverse

end RadioCall
