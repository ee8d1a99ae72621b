/-
This file defines texts as lists of characters and sets of code points as tables of
ascending ranges. The classes of characters that the library tests for are such
tables; the search stops at the first range that lies beyond the code point, so the
plain characters are decided within a few steps.
-/

namespace RadioCall

/-- A text is the list of its characters. -/
abbrev Text := List Char

/-- A set of code points: closed ranges in ascending order. -/
abbrev CodeTable := List (Nat × Nat)

/-- Whether a code point lies in one of the ranges. -/
def CodeTable.covers : CodeTable → Nat → Bool
  | [], _ => false
  | (first, last) :: rest, code =>
    if code < first then false else code ≤ last || CodeTable.covers rest code

/-- A code point that a table covers lies in one of its ranges. -/
theorem CodeTable.exists_range_of_covers {table : CodeTable} {code : Nat}
    (covered : table.covers code) : ∃ range ∈ table, range.1 ≤ code ∧ code ≤ range.2 := by
  induction table with
  | nil => cases covered
  | cons range rest ih =>
    rw [CodeTable.covers] at covered
    split at covered
    · cases covered
    · next fromFirst =>
      rcases Bool.or_eq_true_iff.mp covered with toLast | inRest
      · exact ⟨range, List.mem_cons_self, Nat.le_of_not_lt fromFirst, of_decide_eq_true toLast⟩
      · obtain ⟨other, member, within⟩ := ih inRest
        exact ⟨other, List.mem_cons_of_mem _ member, within⟩

end RadioCall
