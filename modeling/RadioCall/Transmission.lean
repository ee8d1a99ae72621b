/-
This file brings a transcribed transmission into the form in which it is read: small
letters, no punctuation, numbers in digits. The tokens of a transmission are the words
of that form.
-/

import RadioCall.Number.Run
import RadioCall.Text.LetterCase
import RadioCall.Text.Punctuation

namespace RadioCall

/-- Replaces every run of punctuation by a single space; `after` tells whether the
character before the text was punctuation. -/
def separate (after : Bool) : Text → Text
  | [] => []
  | character :: rest =>
    if isPunctuation character then
      if after then separate true rest else ' ' :: separate true rest
    else character :: separate false rest

/-- Replaces every run of punctuation by a single space. -/
def replacePunctuation (text : Text) : Text :=
  separate false text

/-- The form in which a transmission is read. -/
def sanitize (text : Text) : Except Fault Text :=
  expandNumbers (replacePunctuation (lower text))

/-- The words of a transmission in the form in which it is read. -/
def tokens (text : Text) : Except Fault (List Text) :=
  words <$> sanitize text

end RadioCall
