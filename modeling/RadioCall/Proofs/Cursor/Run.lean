/-
This file follows a cursor through calls in any order and with any arguments. Beside the cursor
stands the list of the tokens that the calls consumed so far. A cursor keeps to the order of its
text exactly if no call skips by a negative count: the consumed tokens followed by the remaining
ones stay those of the text, and the position never moves back. After a skip by a negative count
tokens that were consumed are ahead again, and below the start the last tokens of the text come
before all of them.
-/

import Mathlib.Data.List.DropRight
import Mathlib.Data.List.Induction
import RadioCall.Proofs.Cursor.Call

namespace RadioCall

/-! ### Runs -/

/-- A cursor, with the tokens that the calls on it consumed so far. -/
structure CursorRun where
  cursor : Cursor
  consumed : List Text

namespace CursorRun

/-- One call of a run. -/
def step (run : CursorRun) (call : CursorCall) : CursorRun :=
  ⟨run.cursor.after call, run.consumed ++ run.cursor.consumes call⟩

/-- The run of calls on a cursor over a text. -/
def after (text : Text) (calls : List CursorCall) : CursorRun :=
  calls.foldl step ⟨.ofText text, []⟩

theorem after_concat (text : Text) (calls : List CursorCall) (call : CursorCall) :
    after text (calls ++ [call]) = (after text calls).step call := by
  rw [after, List.foldl_append]
  rfl

/-- Whether a run is in order over tokens: the position is one of theirs or the end, what remains
is an end of them, is met next and tells whether the cursor is exhausted, and the consumed tokens
followed by the remaining ones are all of them. -/
structure IsInOrder (tokens : List Text) (run : CursorRun) : Prop where
  tokens_eq : run.cursor.tokens = tokens
  position_nonneg : 0 ≤ run.cursor.position
  position_le : run.cursor.position ≤ tokens.length
  remaining_isSuffix : run.cursor.remaining <:+ tokens
  isExhausted_iff : run.cursor.isExhausted ↔ run.cursor.remaining = []
  peek_eq : run.cursor.peek = .ok run.cursor.remaining.head?
  next_eq : run.cursor.next.1 = .ok run.cursor.remaining.head?
  consumed_append : run.consumed ++ run.cursor.remaining = tokens

/-- Whether no call moves the position back. -/
def NeverRewinds (text : Text) (calls : List CursorCall) : Prop :=
  ∀ before call, before ++ [call] <+: calls →
    (after text before).cursor.position ≤ (after text (before ++ [call])).cursor.position

/-- Whether the run is in order before, between and after all calls. -/
def StaysInOrder (text : Text) (calls : List CursorCall) : Prop :=
  ∀ before, before <+: calls → (after text before).IsInOrder (words text)

/-- What a skip back by a count does to a run over tokens. It tells the negative count. Within
the consumed tokens, the last ones are ahead again; below the start, the last tokens of all are
ahead before all of them; and further below there is no token to meet. -/
structure IsRewoundBy (tokens : List Text) (run : CursorRun) (count : Nat) : Prop where
  told : (run.cursor.skip (-count)).1 = -count
  again : count ≤ run.consumed.length →
    (run.cursor.skip (-count)).2.ahead =
      .ok (run.consumed.rtake count ++ run.cursor.remaining)
  around : run.consumed.length < count → count ≤ run.consumed.length + tokens.length →
    (run.cursor.skip (-count)).2.ahead =
      .ok (tokens.rtake (count - run.consumed.length) ++ tokens)
  beyond : run.consumed.length + tokens.length < count →
    (run.cursor.skip (-count)).2.ahead = .error .noToken

/-! ### Every run -/

theorem tokens_after (text : Text) (calls : List CursorCall) :
    (after text calls).cursor.tokens = words text := by
  induction calls using List.reverseRecOn with
  | nil => rfl
  | append_singleton calls call ih =>
    rw [after_concat]
    exact (Cursor.tokens_after _ call).trans ih

theorem size_after (text : Text) (calls : List CursorCall) :
    (after text calls).cursor.size = (words text).length := by
  rw [Cursor.size, tokens_after]

theorem position_after_le_length (text : Text) (calls : List CursorCall) :
    (after text calls).cursor.position ≤ (words text).length := by
  induction calls using List.reverseRecOn with
  | nil => exact Int.natCast_nonneg _
  | append_singleton calls call ih =>
    have inside : (after text calls).cursor.position ≤ (after text calls).cursor.size := by
      rwa [size_after]
    rw [after_concat, ← size_after text calls]
    exact Cursor.position_after_le inside call

theorem remaining_after_isSuffix (text : Text) (calls : List CursorCall) :
    (after text calls).cursor.remaining <:+ words text := by
  rw [← tokens_after text calls]
  exact Cursor.remaining_isSuffix _

/-! ### Runs without a skip back -/

theorem isInOrder_of_consumed_append {tokens : List Text} {run : CursorRun}
    (same : run.cursor.tokens = tokens) (nonneg : 0 ≤ run.cursor.position)
    (inside : run.cursor.position ≤ run.cursor.size)
    (parts : run.consumed ++ run.cursor.remaining = tokens) : run.IsInOrder tokens where
  tokens_eq := same
  position_nonneg := nonneg
  position_le := by rwa [Cursor.size, same] at inside
  remaining_isSuffix := ⟨run.consumed, parts⟩
  isExhausted_iff := by
    have length := Cursor.length_remaining nonneg inside
    rw [Cursor.isExhausted, decide_eq_true_eq, ← List.length_eq_zero_iff]
    omega
  peek_eq := by
    rw [Cursor.peek, Cursor.ahead_of_nonneg nonneg]
    rfl
  next_eq := by
    rw [Cursor.next, Cursor.read_of_ahead (Cursor.ahead_of_nonneg nonneg)]
    cases run.cursor.remaining <;> rfl
  consumed_append := parts

namespace IsInOrder

variable {tokens : List Text} {run : CursorRun}

theorem position_le_size (inOrder : run.IsInOrder tokens) :
    run.cursor.position ≤ run.cursor.size := by
  rw [Cursor.size, inOrder.tokens_eq]
  exact inOrder.position_le

/-- In order, the position counts the consumed tokens. -/
theorem length_consumed (inOrder : run.IsInOrder tokens) :
    (run.consumed.length : Int) = run.cursor.position := by
  have total := congrArg List.length inOrder.consumed_append
  have left := Cursor.length_remaining inOrder.position_nonneg inOrder.position_le_size
  rw [List.length_append] at total
  rw [Cursor.size, inOrder.tokens_eq] at left
  omega

/-- A call that does not skip back keeps a run in order. -/
theorem step {call : CursorCall} (inOrder : run.IsInOrder tokens) (forward : call.IsForward) :
    (run.step call).IsInOrder tokens := by
  have nonneg := inOrder.position_nonneg
  have inside := inOrder.position_le_size
  have same := Cursor.tokens_after run.cursor call
  refine isInOrder_of_consumed_append (same.trans inOrder.tokens_eq) ?_ ?_ ?_
  · rw [CursorRun.step, Cursor.after_of_isForward nonneg inside forward]
    simp only
    omega
  · rw [CursorRun.step, Cursor.size, same]
    exact Cursor.position_after_le inside call
  · rw [CursorRun.step, List.append_assoc,
      Cursor.consumes_append_remaining nonneg inside forward, inOrder.consumed_append]

end IsInOrder

theorem isInOrder_after (text : Text) {calls : List CursorCall}
    (forward : ∀ call ∈ calls, call.IsForward) : (after text calls).IsInOrder (words text) := by
  induction calls using List.reverseRecOn with
  | nil =>
    exact isInOrder_of_consumed_append (tokens_after text []) (Int.le_refl 0)
      (Int.natCast_nonneg _) rfl
  | append_singleton calls call ih =>
    have before := ih fun other member => forward other (List.mem_append_left _ member)
    rw [after_concat]
    exact before.step (forward call (List.mem_append_right _ (List.mem_singleton_self call)))

/-! ### Skipping back -/

/-- A skip by a negative count consumes nothing and moves the cursor by the count. -/
theorem after_concat_skip_of_nonpos (text : Text) (calls : List CursorCall) {count : Int}
    (back : count ≤ 0) :
    after text (calls ++ [.skip count]) =
      { after text calls with
        cursor := { (after text calls).cursor with
          position := (after text calls).cursor.position + count } } := by
  have inside : (after text calls).cursor.position ≤ (after text calls).cursor.size := by
    rw [size_after]
    exact position_after_le_length text calls
  have nothing : (after text calls).cursor.consumes (.skip count) = [] := by
    rw [Cursor.consumes]
    split
    · exact CursorCall.takes_skip_of_nonpos back _
    · rfl
  rw [after_concat, step, nothing, List.append_nil, Cursor.after,
    Cursor.skip_of_nonpos inside back]

theorem IsInOrder.isRewoundBy {tokens : List Text} {run : CursorRun}
    (inOrder : run.IsInOrder tokens) (count : Nat) : run.IsRewoundBy tokens count := by
  obtain rfl := inOrder.tokens_eq
  have position := inOrder.length_consumed
  have back : -(count : Int) ≤ 0 := by omega
  have moved := Cursor.skip_of_nonpos inOrder.position_le_size back
  refine ⟨by rw [moved], fun within => ?_, fun below reach => ?_, fun beyond => ?_⟩
  · have start : (run.cursor.position + -count).toNat = run.consumed.length - count := by omega
    rw [moved, Cursor.ahead_of_nonneg (by simp only; omega), Cursor.remaining,
      if_neg (by simp only; omega)]
    simp only
    rw [start, ← inOrder.consumed_append, List.drop_append_of_le_length (Nat.sub_le _ _),
      List.rtake]
  · have start : (run.cursor.tokens.length + (run.cursor.position + -count)).toNat =
        run.cursor.tokens.length - (count - run.consumed.length) := by omega
    rw [moved, Cursor.ahead_of_neg (by simp only; omega) (by simp only [Cursor.size]; omega)]
    simp only [Cursor.size]
    rw [start, List.rtake]
  · rw [moved, Cursor.ahead_of_beyond]
    simp only [Cursor.size]
    omega

/-- The position never moves back exactly if no call skips by a negative count. -/
theorem neverRewinds_iff {text : Text} {calls : List CursorCall} :
    NeverRewinds text calls ↔ ∀ call ∈ calls, call.IsForward := by
  constructor
  · intro never call member
    obtain ⟨before, later, rfl⟩ := List.append_of_mem member
    have kept := never before call ⟨later, List.append_assoc before [call] later⟩
    cases call with
    | skip count =>
      by_contra back
      rw [CursorCall.IsForward, Int.not_le] at back
      rw [after_concat_skip_of_nonpos text before (Int.le_of_lt back)] at kept
      simp only at kept
      omega
    | _ => exact trivial
  · intro forward before call isPrefix
    have inOrder := isInOrder_after text fun other member =>
      forward other (isPrefix.subset (List.mem_append_left [call] member))
    have callForward : call.IsForward :=
      forward call (isPrefix.subset (List.mem_append_right _ (List.mem_singleton_self call)))
    rw [after_concat, step, Cursor.after_of_isForward inOrder.position_nonneg
      inOrder.position_le_size callForward]
    exact Int.le_add_of_nonneg_right (Int.natCast_nonneg _)

/-- A run stays in order exactly if no call skips by a negative count: after such a skip the
consumed and the remaining tokens are more than there are. -/
theorem staysInOrder_iff {text : Text} {calls : List CursorCall} :
    StaysInOrder text calls ↔ ∀ call ∈ calls, call.IsForward := by
  constructor
  · intro stays call member
    obtain ⟨before, later, rfl⟩ := List.append_of_mem member
    cases call with
    | skip count =>
      by_contra back
      rw [CursorCall.IsForward, Int.not_le] at back
      have position := (stays before (List.prefix_append before _)).length_consumed
      have moved := (stays (before ++ [.skip count])
        ⟨later, List.append_assoc before [.skip count] later⟩).length_consumed
      rw [after_concat_skip_of_nonpos text before (Int.le_of_lt back)] at moved
      simp only at moved
      omega
    | _ => exact trivial
  · intro forward before isPrefix
    exact isInOrder_after text fun call member => forward call (isPrefix.subset member)

/-- Over every text and all calls: a cursor never rewinds exactly if no call skips by a negative
count, and exactly then all stays in order, which means that the position is within the text,
that what remains is met next and tells whether the cursor is exhausted, and that the consumed
tokens followed by the remaining ones are those of the text. Skips back or not, the position
never passes the end and what remains is an end of the tokens; and after calls in order, a skip
back brings tokens ahead that were consumed, or more than the text has, or none. -/
theorem neverRewinds_and_staysInOrder_iff (text : Text) (calls : List CursorCall) :
    (NeverRewinds text calls ↔ ∀ call ∈ calls, call.IsForward) ∧
      (StaysInOrder text calls ↔ ∀ call ∈ calls, call.IsForward) ∧
      ((after text calls).cursor.position ≤ (words text).length ∧
        (after text calls).cursor.remaining <:+ words text) ∧
      ((∀ call ∈ calls, call.IsForward) →
        ∀ count, (after text calls).IsRewoundBy (words text) count) := by
  refine ⟨neverRewinds_iff, staysInOrder_iff,
    ⟨position_after_le_length text calls, remaining_after_isSuffix text calls⟩, ?_⟩
  intro forward count
  exact (isInOrder_after text forward).isRewoundBy count

/-- Behind the first of two tokens, a skip back by one brings it ahead again, a skip back by two
brings the last token before both, and a skip back by four leaves no token to meet. -/
theorem neverRewinds_and_staysInOrder_iff_twoTokens :
    let text := "eagle 1".toList
    let run := after text [.next]
    ¬NeverRewinds text [.next, .skip (-1)] ∧ ¬StaysInOrder text [.next, .skip (-1)] ∧
      (run.cursor.skip (-1)).2.ahead = .ok ["eagle".toList, "1".toList] ∧
      (run.cursor.skip (-2)).2.ahead = .ok ["1".toList, "eagle".toList, "1".toList] ∧
      (run.cursor.skip (-4)).2.ahead = .error .noToken := by
  intro text run
  have back : ¬∀ call ∈ [CursorCall.next, .skip (-1)], call.IsForward := by
    simp [CursorCall.IsForward]
  have forward : ∀ call ∈ [CursorCall.next], call.IsForward := by
    simp [CursorCall.IsForward]
  obtain ⟨rewinds, order, -, -⟩ :=
    neverRewinds_and_staysInOrder_iff text [.next, .skip (-1)]
  obtain ⟨-, -, -, rewound⟩ := neverRewinds_and_staysInOrder_iff text [.next]
  refine ⟨back ∘ rewinds.mp, back ∘ order.mp, ?_, ?_, ?_⟩
  · exact (rewound forward 1).again (by decide)
  · exact (rewound forward 2).around (by decide) (by decide)
  · exact (rewound forward 4).beyond (by decide)

end CursorRun

end RadioCall
