/-
This file divides a text into lines. Carriage returns, alone or before a line feed, are
first turned into line feeds; then a line ends at a line feed, at a vertical tab or form
feed, at one of three information separators, and at the line ends of other alphabets.
-/

import RadioCall.Text.CodeTable

namespace RadioCall

/-- A text in which every carriage return, with a line feed right after it or without,
is a line feed; `after` tells whether a carriage return stands before the text. -/
def plainLineEnds (after : Bool) : Text → Text
  | [] => []
  | character :: rest =>
    if character = '\r' then '\n' :: plainLineEnds true rest
    else if character = '\n' && after then plainLineEnds false rest
    else character :: plainLineEnds false rest

/-- The characters that end a line. -/
def lineEndTable : CodeTable :=
  [(0x0a, 0x0d), (0x1c, 0x1e), (0x85, 0x85), (0x2028, 0x2029)]

/-- Whether a character ends a line. -/
def isLineEnd (character : Char) : Bool :=
  lineEndTable.covers character.toNat

/-- The lines of a text; `line` is what was read of the first, latest character first. -/
def linesFrom (line : Text) : Text → List Text
  | [] => if line.isEmpty then [] else [line.reverse]
  | character :: rest =>
    if isLineEnd character then line.reverse :: linesFrom [] rest
    else linesFrom (character :: line) rest

/-- The lines of a text. -/
def lines (text : Text) : List Text :=
  linesFrom [] (plainLineEnds false text)

end RadioCall
