/-
This file defines a cursor over the tokens of a transmission. The position counts
tokens from the start; skipping by a negative count moves it back, and a position
below zero counts from the end, so that reading on from there comes to the start
again. Below that there is nothing to read.
-/

import RadioCall.Field
import RadioCall.Transmission

namespace RadioCall

/-- A list of tokens and a position in it. -/
structure Cursor where
  tokens : List Text
  position : Int
  deriving DecidableEq, Repr

namespace Cursor

/-- A cursor at the start of a list of tokens. -/
def start (tokens : List Text) : Cursor :=
  ⟨tokens, 0⟩

/-- A cursor at the first word of a text. -/
def ofText (text : Text) : Cursor :=
  start (words text)

/-- The number of tokens. -/
def size (cursor : Cursor) : Int :=
  cursor.tokens.length

/-- Whether the position is at the end or beyond it. -/
def isExhausted (cursor : Cursor) : Bool :=
  cursor.size ≤ cursor.position

/-- The tokens from the position to the end; a position below zero counts from the end. -/
def remaining (cursor : Cursor) : List Text :=
  if cursor.position < 0 then cursor.tokens.drop (cursor.size + cursor.position).toNat
  else cursor.tokens.drop cursor.position.toNat

/-- The tokens in the order in which reading meets them. -/
def ahead (cursor : Cursor) : Except Fault (List Text) :=
  if 0 ≤ cursor.position then .ok cursor.remaining
  else if cursor.size + cursor.position < 0 then .error .noToken
  else .ok (cursor.remaining ++ cursor.tokens)

/-- The next token, which stays where it is. -/
def peek (cursor : Cursor) : Except Fault (Option Text) :=
  List.head? <$> cursor.ahead

/-- Reads with a reader of tokens and moves behind the tokens that it took. -/
def read {α : Type} (cursor : Cursor) (reader : List Text → Reading α) :
    Except Fault (Option α) × Cursor :=
  match cursor.ahead with
  | .error fault => (.error fault, cursor)
  | .ok tokens =>
    let reading := reader tokens
    let taken : Int := tokens.length - reading.rest.length
    (reading.result, { cursor with position := cursor.position + taken })

/-- Takes the next token. -/
def next (cursor : Cursor) : Except Fault (Option Text) × Cursor :=
  cursor.read fun tokens =>
    match tokens with
    | [] => .missing []
    | token :: rest => .found token rest

/-- Takes the next token if it is the keyword, and tells whether it was. -/
def readKeyword (cursor : Cursor) (keyword : Text) : Except Fault (Option Bool) × Cursor :=
  cursor.read fun tokens =>
    let (isNext, rest) := RadioCall.readKeyword keyword tokens
    .found isNext rest

/-- Discards up to `count` tokens, and tells how many; a negative count moves back. -/
def skip (cursor : Cursor) (count : Int) : Int × Cursor :=
  let skipped := min count (cursor.size - cursor.position)
  (skipped, { cursor with position := cursor.position + skipped })

end Cursor

end RadioCall
