/-
This file says how numbers, altitudes and locations are spoken, apart from how they are
read. A phrase tells into which parts a list of tokens is divided and which form each
part has; the tokens of a phrase are its parts in order. One list of tokens may be the
tokens of several phrases: the digit words of a range may be divided anywhere if digit
words of an altitude follow.
-/

import RadioCall.Field

namespace RadioCall

/-! ### Digits -/

namespace Vocabulary

/-- Whether a word spells a digit. -/
def isDigitWord (vocabulary : Vocabulary) (word : Text) : Bool :=
  (vocabulary.digit? word).isSome

/-- The digits that tokens spell together, if each is made of digits only. -/
def spelledDigits? (vocabulary : Vocabulary) : List Text → Option (List Digit)
  | [] => some []
  | token :: rest => do
    let first ← vocabulary.decodeDigits token
    let others ← vocabulary.spelledDigits? rest
    some (first ++ others)

/-- The digits that words spell one by one, as numbers; other words are passed over. -/
def digitValues (vocabulary : Vocabulary) (words : List Text) : List Nat :=
  (words.filterMap vocabulary.digit?).map Fin.val

/-- Tokens that spell the degrees of a bearing: three digits, up to 360. -/
structure SpellsBearing (vocabulary : Vocabulary) (tokens : List Text) (degrees : Nat) : Prop where
  spelled : ∃ digits, vocabulary.spelledDigits? tokens = some digits ∧ digits.length = 3 ∧
    positionalValue (digits.map Fin.val) = degrees
  bounded : degrees ≤ 360

end Vocabulary

/-! ### Numbers -/

/-- A whole number as it is spoken. -/
inductive NumberPhrase
  /-- A numeral of at least two characters. -/
  | numeral (token : Text)
  /-- Words that each spell a digit. -/
  | digitWords (words : List Text)
  deriving DecidableEq, Repr

/-- Whether a token is a number on its own: a numeral of at least two characters. -/
def isLongNumeral (token : Text) : Bool :=
  isNumeral token && 1 < token.length

namespace NumberPhrase

/-- The tokens of a number. -/
def tokens : NumberPhrase → List Text
  | numeral token => [token]
  | digitWords words => words

/-- Whether the parts of a number have its form. -/
def IsSpoken (vocabulary : Vocabulary) : NumberPhrase → Prop
  | numeral token => isLongNumeral token
  | digitWords words => words ≠ [] ∧ ∀ word ∈ words, vocabulary.isDigitWord word

/-- The number that is spoken. -/
def value (vocabulary : Vocabulary) : NumberPhrase → Nat
  | numeral token => numeralValue token
  | digitWords words => positionalValue (vocabulary.digitValues words)

/-- Whether a number ends where the tokens after it begin: a run of digit words is not
followed by another digit word. -/
def EndsBefore (vocabulary : Vocabulary) (following : List Text) : NumberPhrase → Prop
  | numeral _ => True
  | digitWords _ => following.head?.all fun token => !vocabulary.isDigitWord token

/-- Whether reading takes a number, and no more, in front of the tokens that follow: a
numeral within the limit, or digit words as far as they go. A vocabulary may hold long
numerals among its digit words; in front they are read as numerals. -/
def IsTaken (vocabulary : Vocabulary) (following : List Text) : NumberPhrase → Prop
  | numeral token => isLongNumeral token ∧ token.length ≤ numeralLimit
  | digitWords words =>
    (digitWords words).IsSpoken vocabulary ∧ (digitWords words).EndsBefore vocabulary following ∧
      words.head?.all fun word => !isLongNumeral word

theorem IsTaken.tokens_ne_nil {vocabulary : Vocabulary} {following : List Text}
    {phrase : NumberPhrase} (taken : phrase.IsTaken vocabulary following) : phrase.tokens ≠ [] := by
  cases phrase with
  | numeral token => exact List.cons_ne_nil _ _
  | digitWords words => exact taken.1.1

theorem IsTaken.head?_append_ne {vocabulary : Vocabulary} {following : List Text}
    {phrase : NumberPhrase} {keyword : Text} (taken : phrase.IsTaken vocabulary following)
    (other : phrase.tokens.head? ≠ some keyword) (rest : List Text) :
    (phrase.tokens ++ rest).head? ≠ some keyword := by
  obtain ⟨first, others, split⟩ := List.exists_cons_of_ne_nil taken.tokens_ne_nil
  rw [split] at other ⊢
  exact other

end NumberPhrase

/-! ### Altitudes -/

/-- An altitude as it is spoken: a number of thousands after angels, a number of feet, or
a number of thousands before the word for them. -/
inductive AltitudePhrase
  | angels (number : NumberPhrase)
  | feet (number : NumberPhrase)
  | thousands (number : NumberPhrase)
  deriving DecidableEq, Repr

namespace AltitudePhrase

/-- The number in an altitude. -/
def number : AltitudePhrase → NumberPhrase
  | angels number => number
  | feet number => number
  | thousands number => number

/-- The tokens of an altitude. -/
def tokens : AltitudePhrase → List Text
  | angels number => angelsWord :: number.tokens
  | feet number => number.tokens
  | thousands number => number.tokens ++ [thousandWord]

/-- The altitude that is spoken, in feet. -/
def value (vocabulary : Vocabulary) : AltitudePhrase → Nat
  | angels number => number.value vocabulary * 1000
  | feet number => number.value vocabulary
  | thousands number => number.value vocabulary * 1000

/-- Whether reading takes an altitude, and no more, in front of the tokens that follow. -/
def IsTaken (vocabulary : Vocabulary) (following : List Text) : AltitudePhrase → Prop
  | angels number => number.IsTaken vocabulary following
  | feet number =>
    number.tokens.head? ≠ some angelsWord ∧ number.IsTaken vocabulary following ∧
      following.head? ≠ some thousandWord
  | thousands number =>
    number.tokens.head? ≠ some angelsWord ∧ number.IsTaken vocabulary (thousandWord :: following)

end AltitudePhrase

/-! ### Locations -/

/-- A location as it is spoken: the tokens of its bearing, a range and an altitude. -/
structure BraPhrase where
  bearing : List Text
  range : NumberPhrase
  altitude : AltitudePhrase
  deriving DecidableEq, Repr

namespace BraPhrase

/-- The tokens of a location. -/
def tokens (phrase : BraPhrase) : List Text :=
  phrase.bearing ++ (phrase.range.tokens ++ phrase.altitude.tokens)

/-- The degrees of the bearing as they are spoken, so up to 360. -/
def degrees (vocabulary : Vocabulary) (phrase : BraPhrase) : Nat :=
  positionalValue (((vocabulary.spelledDigits? phrase.bearing).getD []).map Fin.val)

/-- The location that is spoken; a bearing of 360 degrees is north. -/
def value (vocabulary : Vocabulary) (phrase : BraPhrase) : Bra :=
  ⟨(phrase.degrees vocabulary % 360 : Nat), phrase.range.value vocabulary,
    phrase.altitude.value vocabulary⟩

/-- A way to divide tokens into the parts of a location. -/
structure Divides (vocabulary : Vocabulary) (tokens : List Text) (phrase : BraPhrase) : Prop where
  inOrder : phrase.tokens = tokens
  bearing : vocabulary.SpellsBearing phrase.bearing (phrase.degrees vocabulary)
  range : phrase.range.IsSpoken vocabulary
  altitude : phrase.altitude.number.IsSpoken vocabulary

/-- Whether reading takes a location that ends the transmission. -/
structure IsTaken (vocabulary : Vocabulary) (phrase : BraPhrase) : Prop where
  bearing : vocabulary.SpellsBearing phrase.bearing (phrase.degrees vocabulary)
  range : phrase.range.IsTaken vocabulary phrase.altitude.tokens
  altitude : phrase.altitude.IsTaken vocabulary []

/-- Whether the range ends where the altitude begins. -/
def HasWholeRange (vocabulary : Vocabulary) (phrase : BraPhrase) : Prop :=
  phrase.range.EndsBefore vocabulary phrase.altitude.tokens

end BraPhrase

/-! ### Numerals that are too long -/

/-- Whether a number is due that cannot be read: the first token is a numeral of this many
digits, and they are too many. -/
def NumberTooLong (digits : Nat) (tokens : List Text) : Prop :=
  ∃ token rest, tokens = token :: rest ∧ isNumeral token ∧ token.length = digits ∧
    numeralLimit < digits

/-- Whether an altitude is due whose number cannot be read. -/
def AltitudeTooLong (digits : Nat) (tokens : List Text) : Prop :=
  NumberTooLong digits tokens ∨
    ∃ rest, tokens = angelsWord :: rest ∧ NumberTooLong digits rest

/-- Whether a location is due whose range or altitude cannot be read: the fields before
are there, and then a numeral stands that is too long. -/
def BraTooLong (vocabulary : Vocabulary) (digits : Nat) (tokens : List Text) : Prop :=
  ∃ bearing degrees rest, tokens = bearing ++ rest ∧ vocabulary.SpellsBearing bearing degrees ∧
    (NumberTooLong digits rest ∨
      ∃ (range : NumberPhrase) (following : List Text), rest = range.tokens ++ following ∧
        range.IsTaken vocabulary following ∧ AltitudeTooLong digits following)

end RadioCall
