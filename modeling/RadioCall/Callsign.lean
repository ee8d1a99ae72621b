/-
This file decodes callsigns. A pilot says a word followed by digits, or digits alone;
the decoded form is the word followed by each digit on its own. Decoding ends at the
first word that is not made of digits only, after taking the digits it begins with.
-/

import RadioCall.Text.Numeral
import RadioCall.Text.Words
import RadioCall.Vocabulary.Basic

namespace RadioCall

/-! ### Digits of a token -/

/-- The digits that a token begins with. -/
structure LeadingDigits where
  digits : List Digit
  /-- Whether the token holds nothing else. -/
  isComplete : Bool
  deriving DecidableEq, Repr

namespace Vocabulary

/-- The digits that the characters of a text spell one by one, up to the first
character that spells none. -/
def characterDigits (vocabulary : Vocabulary) : Text → LeadingDigits
  | [] => ⟨[], true⟩
  | character :: rest =>
    match vocabulary.digit? [character] with
    | none => ⟨[], false⟩
    | some digit =>
      let others := characterDigits vocabulary rest
      ⟨digit :: others.digits, others.isComplete⟩

/-- The digits that a token begins with: the one that the whole token spells, or else
those that its characters spell. -/
def leadingDigits (vocabulary : Vocabulary) (token : Text) : LeadingDigits :=
  match vocabulary.digit? token with
  | some digit => ⟨[digit], true⟩
  | none => vocabulary.characterDigits token

/-- The digits of a token that is made of digits only. -/
def decodeDigits (vocabulary : Vocabulary) (token : Text) : Option (List Digit) :=
  let found := vocabulary.leadingDigits token
  if found.isComplete && !found.digits.isEmpty then some found.digits else none

end Vocabulary

/-! ### Callsigns -/

/-- A decoded callsign. It is valid if it holds a digit; otherwise the text is the first
word as it was heard and names no aircraft. -/
structure Callsign where
  text : Text
  isValid : Bool
  deriving DecidableEq, Repr

/-- The numeral of a digit. -/
def digitNumeral (digit : Digit) : Text :=
  decimal digit.val

namespace Vocabulary

/-- The digits of the tokens after the first word of a callsign. -/
def callsignDigits (vocabulary : Vocabulary) : List Text → List Digit
  | [] => []
  | token :: rest =>
    let found := vocabulary.leadingDigits token
    if found.isComplete then found.digits ++ callsignDigits vocabulary rest else found.digits

/-- The callsign that the tokens before a trigger spell. -/
def decodeCallsign (vocabulary : Vocabulary) : List Text → Callsign
  | [] => ⟨[], false⟩
  | first :: rest =>
    let digits := vocabulary.callsignDigits rest
    match vocabulary.digit? first with
    | some digit => ⟨sentence ((digit :: digits).map digitNumeral), true⟩
    | none => ⟨sentence (first :: digits.map digitNumeral), !digits.isEmpty⟩

end Vocabulary

end RadioCall
