/-
This file says how a cursor reads. A reader meets the tokens ahead and leaves some of them; the
cursor moves on by as many tokens as the reader took. A cursor that started at the first token
is exhausted exactly if its reader left none.
-/

import RadioCall.Cursor
import RadioCall.Proofs.Reading

namespace RadioCall

namespace Cursor

variable {α : Type} {reader : List Text → Reading α}

/-- From the start all tokens are ahead. -/
theorem ahead_start (tokens : List Text) : (start tokens).ahead = .ok tokens := rfl

/-- A cursor moves by as many tokens as its reader takes of those ahead. -/
theorem read_of_ahead {cursor : Cursor} {tokens : List Text} (ahead : cursor.ahead = .ok tokens) :
    cursor.read reader = ((reader tokens).result,
      { cursor with
        position := cursor.position + (tokens.length - (reader tokens).rest.length : Int) }) := by
  rw [read, ahead]

/-- A reader that finds a value and takes some tokens moves the cursor behind them. -/
theorem read_of_found {cursor : Cursor} {tokens : List Text} (ahead : cursor.ahead = .ok tokens)
    {value : α} {count : Nat} (inside : count ≤ tokens.length)
    (found : reader tokens = .found value (tokens.drop count)) :
    cursor.read reader =
      (.ok (some value), { cursor with position := cursor.position + count }) := by
  have taken : (tokens.length : Int) - (tokens.drop count).length = count := by
    rw [List.length_drop]
    omega
  rw [read_of_ahead ahead, found, Reading.found_result, Reading.found_rest, taken]

/-- Reading from the start exhausts the cursor exactly if no token is left. -/
theorem isExhausted_read_start_iff {tokens : List Text} :
    ((start tokens).read reader).2.isExhausted ↔ (reader tokens).rest = [] := by
  rw [read_of_ahead (ahead_start tokens), isExhausted, decide_eq_true_eq, size, start,
    ← List.length_eq_zero_iff]
  simp only
  omega

end Cursor

end RadioCall
