/-
This file reads the fields of a request from the front of a list of tokens. A reading
has three outcomes: a value, nothing because the tokens do not fit the field, or a
fault because a numeral is too long. In each case the reading also says which tokens
are left, that is, where it stopped.
-/

import RadioCall.Callsign

namespace RadioCall

/-! ### Readings -/

/-- The outcome of reading a field, and the tokens that are left. -/
structure Reading (α : Type) where
  result : Except Fault (Option α)
  rest : List Text

namespace Reading

/-- A field that is read. -/
def found {α : Type} (value : α) (rest : List Text) : Reading α :=
  ⟨.ok (some value), rest⟩

/-- A field that the tokens do not fit. -/
def missing {α : Type} (rest : List Text) : Reading α :=
  ⟨.ok none, rest⟩

/-- Reads on after a field that is read. -/
def andThen {α β : Type} (reading : Reading α) (next : α → List Text → Reading β) : Reading β :=
  match reading.result with
  | .ok (some value) => next value reading.rest
  | .ok none => missing reading.rest
  | .error fault => ⟨.error fault, reading.rest⟩

/-- The same reading with its value changed. -/
def map {α β : Type} (change : α → β) (reading : Reading α) : Reading β :=
  reading.andThen fun value rest => found (change value) rest

end Reading

/-! ### Keywords -/

/-- The word before an altitude in thousands of feet. -/
def angelsWord : Text := "angels".toList

/-- The word after an altitude in thousands of feet. -/
def thousandWord : Text := "thousand".toList

/-- The word before a location measured from the bullseye. -/
def bullseyeWord : Text := "bullseye".toList

/-- Takes the first token if it is the keyword, and tells whether it was. -/
def readKeyword (keyword : Text) : List Text → Bool × List Text
  | [] => (false, [])
  | token :: rest => if token = keyword then (true, rest) else (false, token :: rest)

namespace Vocabulary

/-! ### Bearings -/

/-- Reads tokens of digits until there are at least three digits. -/
def bearingDigits (vocabulary : Vocabulary) (digits : List Digit) :
    List Text → Reading (List Digit)
  | [] => if 3 ≤ digits.length then .found digits [] else .missing []
  | token :: rest =>
    if 3 ≤ digits.length then .found digits (token :: rest)
    else
      match vocabulary.decodeDigits token with
      | none => .missing rest
      | some more => bearingDigits vocabulary (digits ++ more) rest

/-- The bearing of three digits, with 360 as north; more digits and larger numbers are
no bearing. -/
def bearingOf? : List Digit → Option Nat
  | [hundreds, tens, units] =>
    let degrees := hundreds.val * 100 + tens.val * 10 + units.val
    if degrees ≤ 360 then some (degrees % 360) else none
  | _ => none

/-- Reads a bearing of three digits, spoken apart or run together. -/
def readBearing (vocabulary : Vocabulary) (tokens : List Text) : Reading Nat :=
  (vocabulary.bearingDigits [] tokens).andThen fun digits rest =>
    match bearingOf? digits with
    | some bearing => .found bearing rest
    | none => .missing rest

/-! ### Numbers -/

/-- Whether a token reads as a whole number. -/
def isNumber (vocabulary : Vocabulary) (token : Text) : Bool :=
  isNumeral token || (vocabulary.digit? token).isSome

/-- Reads on through the tokens that spell single digits. -/
def moreDigits (vocabulary : Vocabulary) (number : Nat) : List Text → Reading Nat
  | [] => .found number []
  | token :: rest =>
    match vocabulary.digit? token with
    | some digit => moreDigits vocabulary (number * 10 + digit.val) rest
    | none => .found number (token :: rest)

/-- Reads a whole number: a numeral of at least two digits, or single digits up to the
first token that is not one. -/
def readNumber (vocabulary : Vocabulary) : List Text → Reading Nat
  | [] => .missing []
  | token :: rest =>
    if isNumeral token && 1 < token.length then
      match readNumeral token with
      | .ok number => .found number rest
      | .error fault => ⟨.error fault, rest⟩
    else
      match vocabulary.digit? token with
      | none => .missing rest
      | some digit => vocabulary.moreDigits digit.val rest

/-! ### Altitudes -/

/-- Reads an altitude in feet: a number of feet, a number of thousands followed by the
word for them, or a number of thousands after angels. -/
def readAltitude (vocabulary : Vocabulary) (tokens : List Text) : Reading Nat :=
  match readKeyword angelsWord tokens with
  | (true, rest) => (vocabulary.readNumber rest).map (· * 1000)
  | (false, _) =>
    (vocabulary.readNumber tokens).andThen fun number rest =>
      match readKeyword thousandWord rest with
      | (true, rest) => .found (number * 1000) rest
      | (false, rest) => .found number rest

/-! ### Locations -/

/-- Reads a bearing, a range and an altitude. The altitude must end the transmission:
tokens left over mean that the fields were divided otherwise than spoken. -/
def readBra (vocabulary : Vocabulary) (tokens : List Text) : Reading Bra :=
  (vocabulary.readBearing tokens).andThen fun bearing rest =>
    (vocabulary.readNumber rest).andThen fun range rest =>
      (vocabulary.readAltitude rest).andThen fun altitude rest =>
        if rest.isEmpty then .found ⟨bearing, range, altitude⟩ rest else .missing rest

end Vocabulary

end RadioCall
