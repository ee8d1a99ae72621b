/-
This file says which trigger of a list of tokens counts. It ends at the first position
where any phrase ends, and of the phrases that end there it is the longest. The scanner
finds it: as long as it goes on, no phrase has ended so far, and since longer phrases
are tried first the first one that ends is the longest. Phrases of one length that end
at one position are the same phrase, so the order among them cannot matter.
-/

import RadioCall.Controller
import RadioCall.Proofs.Vocabulary.Triggers

namespace RadioCall

/-! ### Phrases in a list of tokens -/

/-- Whether a phrase ends at a position of a list of tokens. -/
def EndsAt (trigger : Trigger) (tokens : List Text) (ending : Nat) : Prop :=
  ending ≤ tokens.length ∧ trigger.phrase <:+ tokens.take ending

/-- A phrase is a block of tokens exactly if it ends at one of their positions. -/
theorem infix_iff_exists_endsAt {trigger : Trigger} {tokens : List Text} :
    trigger.phrase <:+: tokens ↔ ∃ ending, EndsAt trigger tokens ending := by
  constructor
  · rintro ⟨before, after, rfl⟩
    refine ⟨(before ++ trigger.phrase).length, ?_, before, ?_⟩
    · have longer := (List.prefix_append (before ++ trigger.phrase) after).length_le
      exact longer
    · rw [List.take_left]
  · rintro ⟨ending, _, suffix⟩
    exact suffix.isInfix.trans (List.take_prefix ending tokens).isInfix

/-- The trigger that counts: it ends where, for the first time, any phrase ends, and is
the longest that ends there. -/
structure Selects (triggers : List Trigger) (tokens : List Text) (ending : Nat)
    (trigger : Trigger) : Prop where
  listed : trigger ∈ triggers
  ends : EndsAt trigger tokens ending
  earliest : ∀ earlier < ending, ∀ other ∈ triggers, ¬EndsAt other tokens earlier
  longest : ∀ other ∈ triggers, EndsAt other tokens ending →
    other.phrase.length ≤ trigger.phrase.length

namespace Selects

variable {triggers : List Trigger} {tokens : List Text} {first second : Trigger}
  {firstEnding secondEnding : Nat}

/-- There is one position at which the trigger that counts ends. -/
theorem ending_unique (selectsFirst : Selects triggers tokens firstEnding first)
    (selectsSecond : Selects triggers tokens secondEnding second) : firstEnding = secondEnding := by
  rcases Nat.lt_trichotomy firstEnding secondEnding with less | same | more
  · exact absurd selectsFirst.ends (selectsSecond.earliest _ less _ selectsFirst.listed)
  · exact same
  · exact absurd selectsSecond.ends (selectsFirst.earliest _ more _ selectsSecond.listed)

/-- There is one trigger that counts. -/
theorem trigger_unique (ownedPhrases : HaveOwnedPhrases triggers)
    (selectsFirst : Selects triggers tokens firstEnding first)
    (selectsSecond : Selects triggers tokens secondEnding second) : first = second := by
  obtain rfl := selectsFirst.ending_unique selectsSecond
  have sameLength : first.phrase.length = second.phrase.length :=
    Nat.le_antisymm (selectsSecond.longest _ selectsFirst.listed selectsFirst.ends)
      (selectsFirst.longest _ selectsSecond.listed selectsSecond.ends)
  have samePhrase : first.phrase = second.phrase :=
    (List.suffix_of_suffix_length_le selectsFirst.ends.2 selectsSecond.ends.2
      (Nat.le_of_eq sameLength)).eq_of_length sameLength
  have sameRequest :=
    ownedPhrases.owned _ selectsFirst.listed _ selectsSecond.listed samePhrase
  cases first
  cases second
  simp only at samePhrase sameRequest
  rw [samePhrase, sameRequest]

end Selects

/-! ### The scanner -/

/-- The match of a trigger that ends at a position. -/
def Trigger.matchAt (trigger : Trigger) (tokens : List Text) (ending : Nat) : TriggerMatch :=
  ⟨trigger.request, tokens.take (ending - trigger.phrase.length), tokens.drop ending⟩

namespace Vocabulary

theorem endsAt_eq_true_iff {trigger : Trigger} {heard rest : List Text} :
    trigger.endsAt heard ↔ EndsAt trigger (heard.reverse ++ rest) heard.length := by
  rw [Trigger.endsAt, List.isPrefixOf_iff_prefix, EndsAt, ← List.length_reverse, List.take_left,
    ← List.reverse_prefix, List.reverse_reverse, List.length_append]
  exact ⟨fun suffix => ⟨Nat.le_add_right _ _, suffix⟩, fun ends => ends.2⟩

/-- The first trigger in the order of trying that ends with the tokens heard is the one
that counts, if no phrase ended before. -/
theorem selects_of_find? {triggers : List Trigger} (longestFirst : AreLongestFirst triggers)
    {trigger : Trigger} {heard rest : List Text}
    (unheard : ∀ earlier < heard.length, ∀ other ∈ triggers,
      ¬EndsAt other (heard.reverse ++ rest) earlier)
    (isFirst : triggers.find? (fun trigger => trigger.endsAt heard) = some trigger) :
    Selects triggers (heard.reverse ++ rest) heard.length trigger := by
  obtain ⟨ends, before, after, rfl, noneBefore⟩ := List.find?_eq_some_iff_append.mp isFirst
  refine ⟨List.mem_append_right _ List.mem_cons_self, endsAt_eq_true_iff.mp ends, unheard, ?_⟩
  intro other member otherEnds
  rcases List.mem_append.mp member with inBefore | inAfter
  · have noEnd := noneBefore other inBefore
    rw [endsAt_eq_true_iff.mpr otherEnds] at noEnd
    cases noEnd
  · rcases List.mem_cons.mp inAfter with rfl | later
    · exact Nat.le_refl _
    · have ordered := (List.pairwise_append.mp longestFirst).2.1
      exact List.rel_of_pairwise_cons ordered later

/-- Scanning on, with no phrase heard so far, finds the trigger that counts, or nothing if
no phrase ends anywhere. -/
theorem scanFrom_cases {vocabulary : Vocabulary}
    (longestFirst : AreLongestFirst vocabulary.triggers)
    (heard rest : List Text)
    (unheard : ∀ earlier ≤ heard.length, ∀ other ∈ vocabulary.triggers,
      ¬EndsAt other (heard.reverse ++ rest) earlier) :
    (vocabulary.scanFrom heard rest = none ∧
        ∀ ending, ∀ other ∈ vocabulary.triggers, ¬EndsAt other (heard.reverse ++ rest) ending) ∨
      ∃ ending trigger, Selects vocabulary.triggers (heard.reverse ++ rest) ending trigger ∧
        vocabulary.scanFrom heard rest = some (trigger.matchAt (heard.reverse ++ rest) ending) := by
  induction rest generalizing heard with
  | nil =>
    refine .inl ⟨rfl, fun ending other member ends => ?_⟩
    refine unheard ending ?_ other member ends
    rw [← List.length_reverse, ← List.append_nil heard.reverse]
    exact ends.1
  | cons token rest ih =>
    have shifted : heard.reverse ++ token :: rest = (token :: heard).reverse ++ rest := by
      rw [List.reverse_cons, List.append_assoc, List.singleton_append]
    rw [shifted] at unheard ⊢
    rw [scanFrom]
    cases isFirst : vocabulary.triggers.find? fun trigger => trigger.endsAt (token :: heard) with
    | some trigger =>
      have selects :
          Selects vocabulary.triggers ((token :: heard).reverse ++ rest) (token :: heard).length
            trigger :=
        selects_of_find? longestFirst
          (fun earlier before => unheard earlier (Nat.le_of_lt_succ before)) isFirst
      refine .inr ⟨_, trigger, selects, ?_⟩
      simp only [Trigger.matchAt, List.reverse_drop]
      rw [List.take_append_of_le_length (by rw [List.length_reverse]; omega),
        ← @List.length_reverse _ (token :: heard), List.drop_left]
    | none =>
      refine ih (token :: heard) fun earlier before other member ends => ?_
      rcases Nat.lt_or_eq_of_le before with before | rfl
      · exact unheard earlier (Nat.le_of_lt_succ before) other member ends
      · have noEnd := List.find?_eq_none.mp isFirst other member
        exact noEnd (endsAt_eq_true_iff.mpr ends)

/-- Scanning finds the trigger that counts, or nothing if no phrase is there. -/
theorem scan_cases {vocabulary : Vocabulary} (ownedPhrases : HaveOwnedPhrases vocabulary.triggers)
    (longestFirst : AreLongestFirst vocabulary.triggers) (tokens : List Text) :
    (vocabulary.scan tokens = none ∧
        ∀ trigger ∈ vocabulary.triggers, ¬trigger.phrase <:+: tokens) ∨
      ∃ ending trigger, Selects vocabulary.triggers tokens ending trigger ∧
        vocabulary.scan tokens = some (trigger.matchAt tokens ending) := by
  have unheard : ∀ earlier ≤ ([] : List Text).length, ∀ other ∈ vocabulary.triggers,
      ¬EndsAt other tokens earlier := by
    intro earlier before other member ends
    rw [Nat.le_zero.mp before] at ends
    exact ownedPhrases.nonempty other member (List.suffix_nil.mp ends.2)
  rcases scanFrom_cases longestFirst [] tokens unheard with ⟨nothing, never⟩ | found
  · refine .inl ⟨nothing, fun trigger member isInfix => ?_⟩
    obtain ⟨ending, ends⟩ := infix_iff_exists_endsAt.mp isInfix
    exact never ending trigger member ends
  · exact .inr found

theorem scan_eq_none_iff {vocabulary : Vocabulary}
    (ownedPhrases : HaveOwnedPhrases vocabulary.triggers)
    (longestFirst : AreLongestFirst vocabulary.triggers) {tokens : List Text} :
    vocabulary.scan tokens = none ↔
      ∀ trigger ∈ vocabulary.triggers, ¬trigger.phrase <:+: tokens := by
  rcases scan_cases ownedPhrases longestFirst tokens with
    ⟨nothing, never⟩ | ⟨ending, trigger, selects, found⟩
  · exact ⟨fun _ => never, fun _ => nothing⟩
  · rw [found]
    constructor
    · intro impossible
      cases impossible
    · intro never
      exact absurd (infix_iff_exists_endsAt.mpr ⟨ending, selects.ends⟩)
        (never trigger selects.listed)

/-- Scanning gives the match of the trigger that counts. -/
theorem scan_eq_some_of_selects {vocabulary : Vocabulary}
    (ownedPhrases : HaveOwnedPhrases vocabulary.triggers)
    (longestFirst : AreLongestFirst vocabulary.triggers) {tokens : List Text} {ending : Nat}
    {trigger : Trigger} (selects : Selects vocabulary.triggers tokens ending trigger) :
    vocabulary.scan tokens = some (trigger.matchAt tokens ending) := by
  rcases scan_cases ownedPhrases longestFirst tokens with
    ⟨_, never⟩ | ⟨other, found, otherSelects, scanned⟩
  · exact absurd (infix_iff_exists_endsAt.mpr ⟨ending, selects.ends⟩) (never trigger selects.listed)
  · rw [scanned, selects.ending_unique otherSelects,
      selects.trigger_unique ownedPhrases otherSelects]

end Vocabulary

end RadioCall
