/-
This file reads documents from JSON text. Besides the standard it takes the names NaN,
Infinity and -Infinity as numbers. If a key occurs several times in a mapping, the last
value counts, in the place of the first. A number without fraction and exponent is an
integer and may have as many digits as a numeral may have; other numbers are doubles.
Lists and mappings may be nested up to a limit.
-/

import RadioCall.Document.Basic
import RadioCall.Text.Numeral

namespace RadioCall

namespace Json

/-! ### Tokens -/

/-- A text that is no JSON. -/
def malformed {α : Type} : Except Fault α :=
  .error .malformed

/-- Whether a character may stand between the tokens of JSON. -/
def isSpace (character : Char) : Bool :=
  character = ' ' || character = '\t' || character = '\n' || character = '\r'

/-- A text without the space at its front. -/
def skipSpace (text : Text) : Text :=
  text.dropWhile isSpace

/-- Takes a given text from the front of a text. -/
def expect? : Text → Text → Option Text
  | [], text => some text
  | _ :: _, [] => none
  | wanted :: more, character :: rest => if wanted = character then expect? more rest else none

/-! ### Texts -/

/-- The value of a hexadecimal digit. -/
def hexValue? (character : Char) : Option Nat :=
  if '0' ≤ character ∧ character ≤ '9' then some (character.toNat - '0'.toNat)
  else if 'a' ≤ character ∧ character ≤ 'f' then some (character.toNat - 'a'.toNat + 10)
  else if 'A' ≤ character ∧ character ≤ 'F' then some (character.toNat - 'A'.toNat + 10)
  else none

/-- Reads the four hexadecimal digits of a code unit. -/
def codeUnit? : Text → Option (Nat × Text)
  | first :: second :: third :: fourth :: rest => do
    let value := ((← hexValue? first) * 16 + (← hexValue? second)) * 256 +
      ((← hexValue? third) * 16 + (← hexValue? fourth))
    some (value, rest)
  | _ => none

/-- The character of a code unit; half of a pair stands for no character. -/
def unitCharacter (unit : Nat) : Char :=
  if 0xd800 ≤ unit ∧ unit ≤ 0xdfff then Char.ofNat 0xfffd else Char.ofNat unit

/-- Reads a character by its code unit, or by two of them if the first is the upper half
of a pair and the lower half follows. -/
def unicodeEscape? (text : Text) : Option (Char × Text) := do
  let (unit, rest) ← codeUnit? text
  if 0xd800 ≤ unit ∧ unit ≤ 0xdbff then
    match expect? [backslash, 'u'] rest with
    | none => some (unitCharacter unit, rest)
    | some tail =>
      let (second, after) ← codeUnit? tail
      if 0xdc00 ≤ second ∧ second ≤ 0xdfff then
        some (Char.ofNat (0x10000 + (unit - 0xd800) * 0x400 + (second - 0xdc00)), after)
      else some (unitCharacter unit, rest)
  else some (unitCharacter unit, rest)

/-- Reads a character after a backslash. -/
def escape? : Text → Option (Char × Text)
  | [] => none
  | character :: rest =>
    if character = doubleQuote ∨ character = backslash ∨ character = '/' then
      some (character, rest)
    else
      match character with
      | 'b' => some (Char.ofNat 0x08, rest)
      | 'f' => some (Char.ofNat 0x0c, rest)
      | 'n' => some ('\n', rest)
      | 'r' => some ('\r', rest)
      | 't' => some ('\t', rest)
      | 'u' => unicodeEscape? rest
      | _ => none

/-- Reads the characters of a text up to its closing quote. Each step takes a character
or an escape, so the number of characters bounds the number of steps. -/
def characters? : Nat → Text → Option (Text × Text)
  | 0, _ => none
  | _ + 1, [] => none
  | steps + 1, character :: rest => do
    if character = doubleQuote then some ([], rest)
    else if character = backslash then
      let (escaped, rest) ← escape? rest
      let (others, rest) ← characters? steps rest
      some (escaped :: others, rest)
    else if character.toNat < 0x20 then none
    else
      let (others, rest) ← characters? steps rest
      some (character :: others, rest)

/-- Reads a text after its opening quote. -/
def readText (text : Text) : Except Fault (Text × Text) :=
  match characters? (text.length + 1) text with
  | some found => .ok found
  | none => malformed

/-! ### Numbers -/

/-- Takes the fraction of a number: a point and at least one digit. -/
def takeFraction : Text → Text × Text
  | '.' :: rest =>
    if (rest.takeWhile Char.isDigit).isEmpty then ([], '.' :: rest)
    else (rest.takeWhile Char.isDigit, rest.dropWhile Char.isDigit)
  | text => ([], text)

/-- Takes the exponent of a number: a letter e, a sign or none, and at least one digit. -/
def takeExponent (text : Text) : Option Int × Text :=
  match text with
  | letter :: rest =>
    if letter = 'e' ∨ letter = 'E' then
      let (isNegative, digits) :=
        match rest with
        | '-' :: digits => (true, digits)
        | '+' :: digits => (false, digits)
        | digits => (false, digits)
      if (digits.takeWhile Char.isDigit).isEmpty then (none, text)
      else
        (some (Double.signed isNegative (numeralValue (digits.takeWhile Char.isDigit))),
          digits.dropWhile Char.isDigit)
    else (none, text)
  | [] => (none, [])

/-- Takes the whole part of a number: a zero, or digits that do not begin with one. -/
def takeWhole (text : Text) : Text × Text :=
  match text with
  | '0' :: rest => (['0'], rest)
  | _ => (text.takeWhile Char.isDigit, text.dropWhile Char.isDigit)

/-- Reads a number after its sign. -/
def readNumber (isNegative : Bool) (text : Text) : Except Fault (Scalar × Text) :=
  let (whole, afterWhole) := takeWhole text
  let (fraction, afterFraction) := takeFraction afterWhole
  let (exponent, rest) := takeExponent afterFraction
  if whole.isEmpty then malformed
  else if fraction.isEmpty && exponent.isNone then do
    .ok (.integer (Double.signed isNegative (← readNumeral whole)), rest)
  else
    .ok (.double (Double.ofDecimal isNegative (numeralValue (whole ++ fraction))
      (exponent.getD 0 - fraction.length)), rest)

/-! ### Values -/

/-- The values that are written as names. -/
def names : List (Text × Scalar) :=
  [("null".toList, .null), ("true".toList, .boolean true), ("false".toList, .boolean false),
   ("NaN".toList, .double .notANumber), ("Infinity".toList, .double (.infinite false)),
   ("-Infinity".toList, .double (.infinite true))]

/-- Reads a value that is written as a name. -/
def readName? (text : Text) : Option (Scalar × Text) :=
  names.findSome? fun entry => (expect? entry.1 text).map fun rest => (entry.2, rest)

/-- Reads a name or a number. -/
def readBare (text : Text) : Except Fault (Scalar × Text) :=
  match readName? text with
  | some found => .ok found
  | none =>
    match text with
    | '-' :: rest => readNumber true rest
    | _ => readNumber false text

/-- What a closing bracket or a comma says about the parts that follow. -/
inductive Continuation
  | more (rest : Text)
  | done (rest : Text)

/-- Reads a comma or the closing bracket after a part. -/
def readContinuation (closing : Char) (text : Text) : Except Fault Continuation :=
  match skipSpace text with
  | character :: rest =>
    if character = ',' then .ok (.more (skipSpace rest))
    else if character = closing then .ok (.done rest)
    else malformed
  | [] => malformed

/-- The bracket that opens a mapping. -/
def openingBrace : Char := Char.ofNat 0x7b

/-- The bracket that closes a mapping. -/
def closingBrace : Char := Char.ofNat 0x7d

/-- Takes the opening quote of a key. -/
def openKey : Text → Except Fault Text
  | character :: rest => if character = doubleQuote then .ok rest else malformed
  | [] => malformed

/-- Takes the colon after a key and the space around it. -/
def readColon (text : Text) : Except Fault Text :=
  match skipSpace text with
  | ':' :: rest => .ok (skipSpace rest)
  | _ => malformed

/-- Goes one level down, if there is one. -/
def goDown : Nat → Except Fault Nat
  | 0 => .error .nestedTooDeep
  | levels + 1 => .ok levels

mutual

/-- Reads a value at the front of a text, with lists and mappings nested as deep as there
are levels. The number of steps bounds how often values, items and entries begin; each of
them takes a character. -/
def readValue : Nat → Nat → Text → Except Fault (Document × Text)
  | 0, _, _ => malformed
  | _ + 1, _, [] => malformed
  | steps + 1, levels, character :: rest =>
    if character = doubleQuote then do
      let (value, rest) ← readText rest
      .ok (.text value, rest)
    else if character = '[' then do
      let levels ← goDown levels
      match skipSpace rest with
      | ']' :: rest => .ok (.list [], rest)
      | rest =>
        let (items, rest) ← readItems steps levels rest
        .ok (.list items, rest)
    else if character = openingBrace then do
      let levels ← goDown levels
      match skipSpace rest with
      | [] => malformed
      | next :: after =>
        if next = closingBrace then .ok (.mapping [], after)
        else
          let (entries, rest) ← readEntries steps levels (next :: after)
          .ok (Document.ofEntries entries, rest)
    else do
      let (value, rest) ← readBare (character :: rest)
      .ok (.scalar value, rest)

/-- Reads the items of a list up to its closing bracket. -/
def readItems : Nat → Nat → Text → Except Fault (List Document × Text)
  | 0, _, _ => malformed
  | steps + 1, levels, text => do
    let (item, rest) ← readValue steps levels text
    match ← readContinuation ']' rest with
    | .done rest => .ok ([item], rest)
    | .more rest => do
      let (others, rest) ← readItems steps levels rest
      .ok (item :: others, rest)

/-- Reads the entries of a mapping up to its closing bracket. -/
def readEntries : Nat → Nat → Text → Except Fault (List (Scalar × Document) × Text)
  | 0, _, _ => malformed
  | steps + 1, levels, text => do
    let (key, rest) ← readText (← openKey text)
    let (value, rest) ← readValue steps levels (← readColon rest)
    match ← readContinuation closingBrace rest with
    | .done rest => .ok ([(.text key, value)], rest)
    | .more rest => do
      let (others, rest) ← readEntries steps levels rest
      .ok ((.text key, value) :: others, rest)

end

/-- Reads a text that is one JSON value, with space around it. -/
def read (text : Text) : Except Fault Document := do
  let (document, rest) ← readValue (2 * text.length + 2) nestingLimit (skipSpace text)
  if (skipSpace rest).isEmpty then .ok document else malformed

end Json

end RadioCall
