/-
This file shows what the checks of a definition ensure about its triggers. Phrases are
never empty, a phrase belongs to one request only, and longer phrases stand before
shorter ones. The first two hold after every phrase that is added, and sorting loses and
adds no trigger.
-/

import RadioCall.Proofs.Checked
import RadioCall.Vocabulary.Definition

namespace RadioCall

/-! ### Owned phrases and their order -/

/-- Triggers with phrases that are not empty and belong to one request each. -/
structure HaveOwnedPhrases (triggers : List Trigger) : Prop where
  nonempty : ∀ trigger ∈ triggers, trigger.phrase ≠ []
  owned : ∀ first ∈ triggers, ∀ second ∈ triggers, first.phrase = second.phrase →
    first.request = second.request

theorem haveOwnedPhrases_nil : HaveOwnedPhrases [] where
  nonempty := fun _ member => by cases member
  owned := fun _ member => by cases member

/-- Another order of the triggers changes nothing about their phrases. -/
theorem HaveOwnedPhrases.of_perm {triggers others : List Trigger}
    (ownedPhrases : HaveOwnedPhrases triggers) (reordered : others.Perm triggers) :
    HaveOwnedPhrases others where
  nonempty := fun trigger member => ownedPhrases.nonempty trigger (reordered.mem_iff.mp member)
  owned := fun first firstMember second secondMember =>
    ownedPhrases.owned first (reordered.mem_iff.mp firstMember) second
      (reordered.mem_iff.mp secondMember)

/-- Triggers in which longer phrases stand before shorter ones. -/
def AreLongestFirst (triggers : List Trigger) : Prop :=
  triggers.Pairwise fun first second => second.phrase.length ≤ first.phrase.length

/-! ### Adding phrases -/

namespace Vocabulary

theorem reject_ne_ok {α : Type} (cause : DefinitionFault) (value : α) :
    reject cause ≠ .ok value := by
  intro succeeds
  cases succeeds

/-- Adding a phrase keeps the phrases owned: it is not empty, and no other request has it. -/
theorem addPhrase_keeps {request : RequestWord} {triggers result : List Trigger}
    {spelling : Document} (ownedPhrases : HaveOwnedPhrases triggers)
    (added : addPhrase request triggers spelling = .ok result) : HaveOwnedPhrases result := by
  obtain ⟨phrase, _, added⟩ := bind_eq_ok_iff.mp added
  split at added
  · exact absurd added (reject_ne_ok _ _)
  · next notEmpty =>
    split at added
    · exact absurd added (reject_ne_ok _ _)
    · next noOther =>
      obtain rfl := Except.ok.inj added
      have others : ∀ trigger ∈ triggers, trigger.phrase = phrase → trigger.request = request := by
        intro trigger member same
        simpa [same] using List.find?_eq_none.mp noOther trigger member
      constructor
      · intro trigger member
        rcases List.mem_append.mp member with member | member
        · exact ownedPhrases.nonempty trigger member
        · obtain rfl := List.mem_singleton.mp member
          simpa using notEmpty
      · intro first firstMember second secondMember same
        rcases List.mem_append.mp firstMember with firstMember | firstMember <;>
          rcases List.mem_append.mp secondMember with secondMember | secondMember
        · exact ownedPhrases.owned first firstMember second secondMember same
        · obtain rfl := List.mem_singleton.mp secondMember
          exact others first firstMember same
        · obtain rfl := List.mem_singleton.mp firstMember
          exact (others second secondMember same.symm).symm
        · rw [List.mem_singleton.mp firstMember, List.mem_singleton.mp secondMember]

/-! ### Sorting -/

/-- Longer phrases first is an order of the triggers. -/
theorem isLonger_trans (first second third : Trigger)
    (firstLonger : decide (second.phrase.length ≤ first.phrase.length))
    (secondLonger : decide (third.phrase.length ≤ second.phrase.length)) :
    decide (third.phrase.length ≤ first.phrase.length) := by
  rw [decide_eq_true_eq] at firstLonger secondLonger ⊢
  exact Nat.le_trans secondLonger firstLonger

theorem isLonger_total (first second : Trigger) :
    decide (second.phrase.length ≤ first.phrase.length) ||
      decide (first.phrase.length ≤ second.phrase.length) := by
  rw [Bool.or_eq_true, decide_eq_true_eq, decide_eq_true_eq]
  exact Nat.le_total _ _

theorem longestFirst_areLongestFirst (triggers : List Trigger) :
    AreLongestFirst (longestFirst triggers) :=
  (List.pairwise_mergeSort isLonger_trans isLonger_total triggers).imp of_decide_eq_true

theorem longestFirst_perm (triggers : List Trigger) : (longestFirst triggers).Perm triggers :=
  List.mergeSort_perm triggers _

end Vocabulary

end RadioCall
