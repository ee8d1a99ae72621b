/-
This file finds the spelled-out numbers of a text and writes them in digits. A text is
first cut into fragments: maximal runs of word characters, maximal runs of blanks, and
single other characters. A number run is a maximal sequence of fragments that are
number words with nothing but blanks between them; so a number word that is part of a
longer word is left alone.
-/

import RadioCall.Number.Cardinal
import RadioCall.Text.WordCharacter

namespace RadioCall

/-! ### Fragments -/

/-- A piece of a text. -/
inductive Fragment
  /-- A maximal run of word characters. -/
  | word (letters : Text)
  /-- A maximal run of blanks. -/
  | gap (blanks : Text)
  /-- Any other character. -/
  | mark (character : Char)
  deriving DecidableEq, Repr

/-- The text of a fragment. -/
def Fragment.text : Fragment → Text
  | word letters => letters
  | gap blanks => blanks
  | mark character => [character]

/-- Puts a character in front of the fragments of the text after it. -/
def Fragment.prepend (character : Char) (fragments : List Fragment) : List Fragment :=
  if isWordCharacter character then
    match fragments with
    | word letters :: rest => word (character :: letters) :: rest
    | _ => word [character] :: fragments
  else if isBlank character then
    match fragments with
    | gap blanks :: rest => gap (character :: blanks) :: rest
    | _ => gap [character] :: fragments
  else mark character :: fragments

/-- The fragments of a text, in order. -/
def fragments (text : Text) : List Fragment :=
  text.foldr Fragment.prepend []

/-! ### Number runs -/

/-- A stretch of a text: a number run with its source, or a fragment outside of all. -/
inductive Stretch
  | run (source : Text) (spoken : List NumberWord)
  | plain (fragment : Fragment)
  deriving DecidableEq, Repr

/-- The text of a stretch. -/
def Stretch.text : Stretch → Text
  | run source _ => source
  | plain fragment => fragment.text

/-- Puts a fragment in front of the stretches after it. A number word extends the run
that follows it after a gap. -/
def Stretch.prepend (fragment : Fragment) (stretches : List Stretch) : List Stretch :=
  match fragment with
  | .word letters =>
    match NumberWord.ofText? letters, stretches with
    | some word, plain (.gap blanks) :: run source spoken :: rest =>
      run (letters ++ blanks ++ source) (word :: spoken) :: rest
    | some word, _ => run letters [word] :: stretches
    | none, _ => plain fragment :: stretches
  | _ => plain fragment :: stretches

/-- The stretches of a text, in order. -/
def stretches (text : Text) : List Stretch :=
  (fragments text).foldr Stretch.prepend []

/-! ### Writing numbers in digits -/

/-- A stretch as it is written: number runs in digits, all else unchanged. -/
def Stretch.written : Stretch → Except Fault Text
  | run _ spoken => Cardinal.writtenRun spoken
  | plain fragment => .ok fragment.text

/-- A text with its spelled-out numbers written in digits. The text is expected in small
letters; number words in capitals are left alone. -/
def expandNumbers (text : Text) : Except Fault Text :=
  List.flatten <$> (stretches text).mapM Stretch.written

end RadioCall
