/-
This file fills a template: a text with places for the name of the program. A place begins
with a percent sign. It may name what it stands for, and say how wide and how long the text
put there is; a letter at its end says in which form. A place without a name stands for the
whole record of names, but only if it is the first. Two percent signs stand for one.
-/

import RadioCall.Document.Shown
import RadioCall.Text.Numeral
import RadioCall.Text.Words

namespace RadioCall

namespace CommandLine

/-- The name of the program. -/
def programName : Text := "parse_transmission.py".toList

/-- What a place is called that stands for the name of the program. -/
def placeName : Text := "prog".toList

/-- The record of all names that places may have. -/
def placeRecord : Document := .record [(placeName, .text programName)]

/-! ### Places -/

/-- A place of a template. -/
structure Place where
  /-- Whether the place is named; its name is then `placeName`. -/
  isNamed : Bool
  /-- Whether a text narrower than the place stands at its left end. -/
  isLeft : Bool
  /-- The least width of the text. -/
  width : Nat
  /-- How much of the text is kept, if not all. -/
  limit : Option Nat
  /-- The letter at the end. -/
  form : Char
  /-- The position of that letter in the template. -/
  position : Nat
  deriving DecidableEq, Repr

namespace Place

/-- Divides a text where its first open parenthesis is closed; `depth` counts those that
were opened in between. -/
def closeName (depth : Nat) : Text → Option (Text × Text)
  | [] => none
  | character :: rest =>
    if character = ')' && depth = 0 then some ([], rest)
    else
      let depth :=
        if character = '(' then depth + 1 else if character = ')' then depth - 1 else depth
      (closeName depth rest).map fun (name, rest) => (character :: name, rest)

/-- Reads whether a place is named. There is only one name. -/
def readName : Text → Except Fault (Bool × Text)
  | '(' :: rest =>
    match closeName 0 rest with
    | none => .error (.template .nameNotClosed)
    | some (name, rest) => if name = placeName then .ok (true, rest) else .error .unknownName
  | text => .ok (false, text)

/-- The characters that may stand before the width. -/
def signs : Text := "-+ #0".toList

/-- Reads a number, if there is one. A number larger than `largest` is a fault of the given
cause. A star, which leaves the number to a value, is refused: no value is a number. -/
def readNumber (largest : Nat) (cause : TemplateFault) (text : Text) :
    Except Fault (Option Nat × Text) :=
  match text.takeWhile Char.isDigit with
  | [] => if beginsWith (· = '*') text then .error .wrongKind else .ok (none, text)
  | digits =>
    if numeralValue digits ≤ largest then .ok (numeralValue digits, text.drop digits.length)
    else .error (.template cause)

/-- The largest width of a place. -/
def largestWidth : Nat := powerOfTwo 63 - 1

/-- The largest length of the text that is put into a place. -/
def largestLimit : Nat := powerOfTwo 31 - 1

/-- Reads the limit of a place, which follows a point. A point alone keeps nothing. -/
def readLimit : Text → Except Fault (Option Nat × Text)
  | '.' :: rest => do
    let (limit, rest) ← readNumber largestLimit .limitTooLarge rest
    .ok (some (limit.getD 0), rest)
  | text => .ok (none, text)

/-- What follows a letter of size at the front of a text. Such a letter has no effect. -/
def dropSizeLetter : Text → Text
  | character :: rest => if "hlL".toList.contains character then rest else character :: rest
  | [] => []

/-- Reads the place that a percent sign begins in a template of the given length, and what
follows it. -/
def read (length : Nat) (text : Text) : Except Fault (Place × Text) := do
  let (isNamed, rest) ← readName text
  let before := rest.takeWhile signs.contains
  let (width, rest) ← readNumber largestWidth .widthTooLarge (rest.drop before.length)
  let (limit, rest) ← readLimit rest
  match dropSizeLetter rest with
  | [] => .error (.template .placeNotClosed)
  | form :: rest =>
    .ok (⟨isNamed, before.contains '-', width.getD 0, limit, form, length - rest.length - 1⟩, rest)

/-- What a place stands for; one without a name stands for nothing after another place. -/
def value? (place : Place) (isFirst : Bool) : Option Document :=
  if place.isNamed then some (.text programName)
  else if isFirst then some placeRecord
  else none

/-- A text in its place. If it is too narrow a space is set beside it; more would be lost
when the template is set into lines. -/
def lay (place : Place) (text : Text) : Text :=
  let kept := text.take (place.limit.getD text.length)
  if place.width ≤ kept.length then kept
  else if place.isLeft then kept ++ [' ']
  else ' ' :: kept

/-- The letters of the forms in which numbers and characters are written. -/
def numericForms : Text := "diuoxXeEfFgGc".toList

/-- The text of a place. -/
def fill (place : Place) (isFirst : Bool) : Except Fault Text :=
  match place.value? isFirst with
  | none => .error .wrongKind
  | some value =>
    if place.form = 's' then place.lay <$> value.spoken
    else if place.form = 'r' || place.form = 'a' then place.lay <$> value.shown
    else if numericForms.contains place.form then .error .wrongKind
    else .error (.template (.unknownForm place.form place.position))

end Place

/-! ### Templates -/

/-- Fills the places in what is left of a template of the given length. There are no more
steps than characters. -/
def fillRest (length : Nat) : Nat → Bool → Text → Except Fault Text
  | 0, _, _ => .ok []
  | _, _, [] => .ok []
  | steps + 1, isFirst, '%' :: '%' :: rest => do
    .ok ('%' :: (← fillRest length steps isFirst rest))
  | steps + 1, isFirst, '%' :: rest => do
    let (place, rest) ← Place.read length rest
    let filled ← place.fill isFirst
    .ok (filled ++ (← fillRest length steps false rest))
  | steps + 1, isFirst, character :: rest => do
    .ok (character :: (← fillRest length steps isFirst rest))

/-- Whether a text contains another. -/
def containsText (part : Text) : Text → Bool
  | [] => part.isEmpty
  | character :: rest => part.isPrefixOf (character :: rest) || containsText part rest

/-- Fills the places of a text, if one of them is for the name of the program. All other
texts are no templates and stay as they are. -/
def fillTemplate (text : Text) : Except Fault Text :=
  if containsText ("%(".toList ++ placeName ++ [')']) text then
    fillRest text.length text.length true text
  else .ok text

end CommandLine

end RadioCall
