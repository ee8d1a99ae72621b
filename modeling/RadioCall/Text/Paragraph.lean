/-
This file sets a text into lines of at most a given width. A line may end at a space, after
the hyphen of a compound word, and before or after a dash; the text between two such places
is a piece. A piece that is longer than a line is cut, after a hyphen if it has one. Blanks
at the ends of the lines are lost.
-/

import RadioCall.Text.DecimalDigit
import RadioCall.Text.Quoted
import RadioCall.Text.WordCharacter
import RadioCall.Text.Words

namespace RadioCall

/-! ### Spaces -/

/-- Whether a character is a space, a tab or one of the plain line ends. -/
def isPlainSpace (character : Char) : Bool :=
  character = ' ' || (0x09 ≤ character.toNat && character.toNat ≤ 0x0d)

/-- A text with single spaces between its runs without plain spaces, and without the blanks
at its two ends. -/
def singleSpaced (text : Text) : Text :=
  trim (sentence (runsOf (fun character => !isPlainSpace character) text))

/-! ### Where a line may end -/

/-- Whether a character is a word character, but not a digit. -/
def isLetter (character : Char) : Bool :=
  isWordCharacter character && !isDecimalDigit character

/-- The marks that may stand between a word and a dash. -/
def marksOfWords : Text :=
  singleQuote :: doubleQuote :: "!&.,?".toList

/-- Whether a character is a word character or a mark that belongs to words. -/
def isOfWord (character : Char) : Bool :=
  isWordCharacter character || marksOfWords.contains character

/-- Whether a text begins with two letters, which a hyphen may separate. -/
def beginsWithLetters : Text → Bool
  | first :: '-' :: second :: _ => isLetter first && isLetter second
  | first :: second :: _ => isLetter first && isLetter second
  | _ => false

/-- Whether a text begins with a dash, which is at least two hyphens, and a character after
the dash passes the test. -/
def hasDashBefore (inside : Char → Bool) : Text → Bool
  | '-' :: '-' :: rest => beginsWith inside (rest.dropWhile (· = '-'))
  | _ => false

/-- Whether a line may end between two texts, the first given with its latest character
first: at the beginning and the end of a space, after a hyphen with two letters on either
side, and on both sides of a dash between words. -/
def isBreak (before after : Text) : Bool :=
  match before, after with
  | last :: earlier, first :: _ =>
    (last = ' ') != (first = ' ') ||
      last = '-' && beginsWithLetters earlier && beginsWithLetters after ||
      isOfWord last && hasDashBefore isWordCharacter after ||
      isWordCharacter first && hasDashBefore isOfWord before
  | _, _ => false

/-- The pieces of a text, divided wherever a line may end; the text before it is given with
its latest character first. -/
def piecesAfter (before : Text) : Text → List Text
  | [] => []
  | character :: rest =>
    if isBreak (character :: before) rest then [character] :: piecesAfter (character :: before) rest
    else extendFirst character (piecesAfter (character :: before) rest)

/-! ### Lines -/

/-- Divides pieces into those that fit into the given room and the others. -/
def takeFitting (room : Nat) : List Text → List Text × List Text
  | [] => ([], [])
  | piece :: rest =>
    if piece.length ≤ room then
      let (fitting, others) := takeFitting (room - piece.length) rest
      (piece :: fitting, others)
    else ([], piece :: rest)

/-- Where a piece is cut to fit into the given room: after the last hyphen there that has
more than hyphens before it, or else where the room ends. -/
def cutPlace (room : Nat) (piece : Text) : Nat :=
  match (piece.take room).reverse.dropWhile (· != '-') with
  | [] => room
  | _ :: earlier => if earlier.any (· != '-') then earlier.length + 1 else room

/-- The pieces of the first line, and what is left. A piece that would not fit into a line of
its own is cut, though nothing of it may fit into this one. -/
def takeLine (width : Nat) (pieces : List Text) : List Text × List Text :=
  match takeFitting width pieces with
  | (fitting, []) => (fitting, [])
  | (fitting, piece :: rest) =>
    if piece.length ≤ width then (fitting, piece :: rest)
    else
      let place := cutPlace (width - fitting.flatten.length) piece
      (fitting ++ [piece.take place], piece.drop place :: rest)

/-- Pieces without the first, if that is blank. -/
def dropFirstBlank : List Text → List Text
  | [] => []
  | piece :: rest => if piece.all isBlank then rest else piece :: rest

/-- Pieces without the last, if that is blank. -/
def dropLastBlank (pieces : List Text) : List Text :=
  (dropFirstBlank pieces.reverse).reverse

/-- The lines of pieces, of which there are at most `count`. A line of which nothing is left
is passed over. -/
def linesOfPieces (width : Nat) : Nat → List Text → List Text
  | 0, _ => []
  | _, [] => []
  | count + 1, pieces =>
    let (line, others) := takeLine width pieces
    let later := linesOfPieces width count (dropFirstBlank others)
    match dropLastBlank line with
    | [] => later
    | kept => kept.flatten :: later

/-- A text set into lines. Every line uses up a character or more, so there are no more lines
than characters. -/
def paragraph (width : Nat) (text : Text) : Text :=
  ['\n'].intercalate (linesOfPieces width text.length (piecesAfter [] text))

end RadioCall
