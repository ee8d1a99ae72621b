/-
This file says what one call on a cursor does. No call moves the cursor beyond the end or changes
its tokens. Every call but a skip by a negative count moves it behind the tokens that the call
takes, so that these and the remaining ones are those that remained before. A skip by a negative
count moves back, and from a position below zero reading meets the last tokens and then all of
them, or none.
-/

import RadioCall.Proofs.Cursor
import RadioCall.Proofs.Cursor.Rest

namespace RadioCall

/-! ### Calls -/

/-- What can be called on a cursor. -/
inductive CursorCall
  | next
  | peek
  | remaining
  | skip (count : Int)
  | readKeyword (keyword : Text)
  | readBearing (vocabulary : Vocabulary)
  | readNumber (vocabulary : Vocabulary)
  | readAltitude (vocabulary : Vocabulary)

namespace CursorCall

/-- The tokens that a call leaves of those that it meets. -/
def leaves : CursorCall → List Text → List Text
  | .next, tokens => tokens.tail
  | .peek, tokens => tokens
  | .remaining, tokens => tokens
  | .skip count, tokens => tokens.drop count.toNat
  | .readKeyword keyword, tokens => (RadioCall.readKeyword keyword tokens).2
  | .readBearing vocabulary, tokens => (vocabulary.readBearing tokens).rest
  | .readNumber vocabulary, tokens => (vocabulary.readNumber tokens).rest
  | .readAltitude vocabulary, tokens => (vocabulary.readAltitude tokens).rest

/-- The tokens in front of those that a call leaves. -/
def takes (call : CursorCall) (tokens : List Text) : List Text :=
  tokens.take (tokens.length - (call.leaves tokens).length)

/-- Whether a call is no skip by a negative count. -/
def IsForward : CursorCall → Prop
  | .skip count => 0 ≤ count
  | _ => True

theorem leaves_isSuffix (call : CursorCall) (tokens : List Text) :
    call.leaves tokens <:+ tokens := by
  cases call with
  | next => exact List.tail_suffix tokens
  | peek => exact List.suffix_rfl
  | remaining => exact List.suffix_rfl
  | skip count => exact List.drop_suffix count.toNat tokens
  | readKeyword keyword => exact readKeyword_snd_isSuffix keyword tokens
  | readBearing vocabulary => exact Vocabulary.readBearing_rest_isSuffix tokens
  | readNumber vocabulary => exact Vocabulary.readNumber_rest_isSuffix tokens
  | readAltitude vocabulary => exact Vocabulary.readAltitude_rest_isSuffix tokens

theorem takes_append_leaves (call : CursorCall) (tokens : List Text) :
    call.takes tokens ++ call.leaves tokens = tokens :=
  List.suffix_iff_eq_append.mp (call.leaves_isSuffix tokens)

theorem drop_length_takes (call : CursorCall) (tokens : List Text) :
    tokens.drop (call.takes tokens).length = call.leaves tokens :=
  calc tokens.drop (call.takes tokens).length
      = (call.takes tokens ++ call.leaves tokens).drop (call.takes tokens).length := by
        rw [takes_append_leaves]
    _ = call.leaves tokens := List.drop_left

theorem length_takes_add (call : CursorCall) (tokens : List Text) :
    (call.takes tokens).length + (call.leaves tokens).length = tokens.length := by
  rw [← List.length_append, takes_append_leaves]

theorem takes_skip_of_nonpos {count : Int} (back : count ≤ 0) (tokens : List Text) :
    (CursorCall.skip count).takes tokens = [] := by
  rw [takes, leaves, Int.toNat_of_nonpos back, List.drop_zero, Nat.sub_self, List.take_zero]

end CursorCall

namespace Cursor

/-- The cursor after a call. -/
def after (cursor : Cursor) : CursorCall → Cursor
  | .next => cursor.next.2
  | .peek => cursor
  | .remaining => cursor
  | .skip count => (cursor.skip count).2
  | .readKeyword keyword => (cursor.readKeyword keyword).2
  | .readBearing vocabulary => (cursor.read vocabulary.readBearing).2
  | .readNumber vocabulary => (cursor.read vocabulary.readNumber).2
  | .readAltitude vocabulary => (cursor.read vocabulary.readAltitude).2

/-- The tokens that a call consumes: those that it takes of the tokens ahead, if it meets any. -/
def consumes (cursor : Cursor) (call : CursorCall) : List Text :=
  match cursor.ahead with
  | .ok tokens => call.takes tokens
  | .error _ => []

variable {cursor : Cursor} {call : CursorCall} {α : Type} {reader : List Text → Reading α}

/-! ### The tokens ahead -/

theorem ahead_of_nonneg (nonneg : 0 ≤ cursor.position) : cursor.ahead = .ok cursor.remaining :=
  if_pos nonneg

/-- From a position below zero the tokens up to the end are ahead, and then all of them. -/
theorem ahead_of_neg (below : cursor.position < 0) (reach : 0 ≤ cursor.size + cursor.position) :
    cursor.ahead =
      .ok (cursor.tokens.drop (cursor.size + cursor.position).toNat ++ cursor.tokens) := by
  rw [ahead, if_neg (Int.not_le.mpr below), if_neg (Int.not_lt.mpr reach), remaining,
    if_pos below]

theorem ahead_of_beyond (beyond : cursor.size + cursor.position < 0) :
    cursor.ahead = .error .noToken := by
  have below : ¬0 ≤ cursor.position := by
    rw [size] at beyond
    omega
  rw [ahead, if_neg below, if_pos beyond]

/-- The tokens ahead are as many as the positions up to the end. -/
theorem length_of_ahead {tokens : List Text} (ahead : cursor.ahead = .ok tokens)
    (inside : cursor.position ≤ cursor.size) :
    (tokens.length : Int) = cursor.size - cursor.position := by
  rw [size] at inside ⊢
  rcases Int.lt_or_le cursor.position 0 with below | nonneg
  · rcases Int.lt_or_le (cursor.size + cursor.position) 0 with beyond | reach
    · rw [ahead_of_beyond beyond] at ahead
      cases ahead
    · rw [ahead_of_neg below reach] at ahead
      obtain rfl := Except.ok.inj ahead
      rw [size] at reach ⊢
      rw [List.length_append, List.length_drop]
      omega
  · rw [ahead_of_nonneg nonneg] at ahead
    obtain rfl := Except.ok.inj ahead
    rw [remaining, if_neg (Int.not_lt.mpr nonneg), List.length_drop]
    omega

theorem length_remaining (nonneg : 0 ≤ cursor.position) (inside : cursor.position ≤ cursor.size) :
    (cursor.remaining.length : Int) = cursor.size - cursor.position :=
  length_of_ahead (ahead_of_nonneg nonneg) inside

theorem remaining_isSuffix (cursor : Cursor) : cursor.remaining <:+ cursor.tokens := by
  rw [remaining]
  split <;> exact List.drop_suffix _ _

/-! ### What every call keeps -/

theorem tokens_read : (cursor.read reader).2.tokens = cursor.tokens := by
  rw [read]
  split <;> rfl

theorem tokens_after (cursor : Cursor) (call : CursorCall) :
    (cursor.after call).tokens = cursor.tokens := by
  cases call with
  | peek => rfl
  | remaining => rfl
  | skip count => rfl
  | _ => exact tokens_read

theorem position_read_le (inside : cursor.position ≤ cursor.size) :
    (cursor.read reader).2.position ≤ cursor.size := by
  cases ahead : cursor.ahead with
  | error fault =>
    rw [read, ahead]
    exact inside
  | ok tokens =>
    have length := length_of_ahead ahead inside
    rw [read_of_ahead ahead]
    simp only
    omega

/-- No call moves the cursor beyond the end. -/
theorem position_after_le (inside : cursor.position ≤ cursor.size) (call : CursorCall) :
    (cursor.after call).position ≤ cursor.size := by
  cases call with
  | peek => exact inside
  | remaining => exact inside
  | skip count =>
    simp only [after, skip]
    omega
  | _ => exact position_read_le inside

/-! ### Moving forward -/

theorem remaining_add (nonneg : 0 ≤ cursor.position) (count : Nat) :
    ({ cursor with position := cursor.position + count } : Cursor).remaining =
      cursor.remaining.drop count := by
  have stays : ¬cursor.position + count < 0 := by omega
  have sum : (cursor.position + count).toNat = cursor.position.toNat + count := by omega
  rw [remaining, remaining, if_neg stays, if_neg (Int.not_lt.mpr nonneg), List.drop_drop, sum]

/-- A reader moves the cursor by the tokens that its call takes. -/
theorem read_snd_of_leaves (nonneg : 0 ≤ cursor.position)
    (rest : (reader cursor.remaining).rest = call.leaves cursor.remaining) :
    (cursor.read reader).2 =
      { cursor with position := cursor.position + (call.takes cursor.remaining).length } := by
  have taken : (cursor.remaining.length : Int) - (call.leaves cursor.remaining).length =
      (call.takes cursor.remaining).length := by
    have length := call.length_takes_add cursor.remaining
    omega
  rw [read_of_ahead (ahead_of_nonneg nonneg), rest, taken]

/-- Every call but a skip by a negative count moves the cursor by the tokens that it takes. -/
theorem after_of_isForward (nonneg : 0 ≤ cursor.position)
    (inside : cursor.position ≤ cursor.size) (forward : call.IsForward) :
    cursor.after call =
      { cursor with position := cursor.position + (call.takes cursor.remaining).length } := by
  have stays : cursor = { cursor with position := cursor.position + (0 : Nat) } := by
    rw [Int.natCast_zero, Int.add_zero]
  cases call with
  | next =>
    refine read_snd_of_leaves nonneg ?_
    cases cursor.remaining <;> rfl
  | peek | remaining => rwa [CursorCall.takes, CursorCall.leaves, Nat.sub_self, List.take_zero]
  | skip count =>
    have taken : min count (cursor.size - cursor.position) =
        ((CursorCall.skip count).takes cursor.remaining).length := by
      have length := CursorCall.length_takes_add (.skip count) cursor.remaining
      have left := length_remaining nonneg inside
      rw [CursorCall.leaves, List.length_drop] at length
      rw [CursorCall.IsForward] at forward
      omega
    rw [after, skip, taken]
  | readKeyword keyword => exact read_snd_of_leaves nonneg rfl
  | readBearing vocabulary => exact read_snd_of_leaves nonneg rfl
  | readNumber vocabulary => exact read_snd_of_leaves nonneg rfl
  | readAltitude vocabulary => exact read_snd_of_leaves nonneg rfl

/-- After such a call the tokens remain that it leaves of those that remained before. -/
theorem remaining_after (nonneg : 0 ≤ cursor.position) (inside : cursor.position ≤ cursor.size)
    (forward : call.IsForward) :
    (cursor.after call).remaining = call.leaves cursor.remaining := by
  rw [after_of_isForward nonneg inside forward, remaining_add nonneg, call.drop_length_takes]

theorem consumes_append_remaining (nonneg : 0 ≤ cursor.position)
    (inside : cursor.position ≤ cursor.size) (forward : call.IsForward) :
    cursor.consumes call ++ (cursor.after call).remaining = cursor.remaining := by
  rw [consumes, ahead_of_nonneg nonneg, remaining_after nonneg inside forward,
    call.takes_append_leaves]

/-! ### Moving back -/

theorem skip_of_nonpos (inside : cursor.position ≤ cursor.size) {count : Int} (back : count ≤ 0) :
    cursor.skip count = (count, { cursor with position := cursor.position + count }) := by
  have whole : min count (cursor.size - cursor.position) = count := by omega
  simp only [skip, whole]

end Cursor

end RadioCall
