/-
This file proves which trigger a vocabulary finds when a cursor reads on to the first one. It
finds none exactly if no phrase stands among the tokens ahead. Otherwise it finds the trigger
that counts: the reading gives its request and the text before its phrase, and leaves the cursor
behind the phrase. A phrase belongs to one request, and of the phrases that end at one position
only one is the longest; so the triggers may be tried in any order in which longer phrases stand
before shorter ones.
-/

import RadioCall.Proofs.Cursor
import RadioCall.Proofs.Vocabulary.Spoken

namespace RadioCall

/-! ### The match of a trigger -/

/-- Before the phrase of a match stand the tokens of its segment. -/
theorem Trigger.matchAt_segment {trigger : Trigger} {tokens : List Text} {ending : Nat}
    (ends : EndsAt trigger tokens ending) :
    (trigger.matchAt tokens ending).segment ++ trigger.phrase = tokens.take ending := by
  obtain ⟨before, isFront⟩ := ends.2
  have length : before.length + trigger.phrase.length = ending := by
    rw [← List.length_append, isFront, List.length_take, Nat.min_eq_left ends.1]
  have shorter : ending - trigger.phrase.length ≤ ending := Nat.sub_le _ _
  rw [Trigger.matchAt, ← Nat.min_eq_left shorter, ← List.take_take, ← isFront, ← length,
    Nat.add_sub_cancel, List.take_left]

/-! ### Other orders -/

/-- The trigger that counts does not depend on the order of the triggers. -/
theorem Selects.of_perm {triggers others : List Trigger} {tokens : List Text} {ending : Nat}
    {trigger : Trigger} (selects : Selects triggers tokens ending trigger)
    (reordered : others.Perm triggers) : Selects others tokens ending trigger where
  listed := reordered.mem_iff.mpr selects.listed
  ends := selects.ends
  earliest := fun earlier before other member =>
    selects.earliest earlier before other (reordered.mem_iff.mp member)
  longest := fun other member => selects.longest other (reordered.mem_iff.mp member)

namespace Vocabulary

/-- Triggers may be tried in any order in which longer phrases come first. -/
theorem scan_eq_of_perm {vocabulary : Vocabulary}
    (ownedPhrases : HaveOwnedPhrases vocabulary.triggers)
    (longestFirst : AreLongestFirst vocabulary.triggers) {reordered : List Trigger}
    (isPerm : reordered.Perm vocabulary.triggers) (stillLongestFirst : AreLongestFirst reordered) :
    { vocabulary with triggers := reordered }.scan = vocabulary.scan := by
  have stillOwned := ownedPhrases.of_perm isPerm
  funext tokens
  rcases scan_cases ownedPhrases longestFirst tokens with
    ⟨nothing, never⟩ | ⟨ending, trigger, selects, found⟩
  · rw [nothing]
    refine (scan_eq_none_iff stillOwned stillLongestFirst).mpr fun trigger member => ?_
    exact never trigger (isPerm.mem_iff.mp member)
  · rw [found]
    exact scan_eq_some_of_selects stillOwned stillLongestFirst (selects.of_perm isPerm)

/-! ### Reading on to a trigger -/

/-- Reads on to the first trigger: gives the request that it announces and the text before its
phrase, the tokens joined with single spaces. -/
def readTrigger (vocabulary : Vocabulary) (tokens : List Text) : Reading (RequestWord × Text) :=
  match vocabulary.scan tokens with
  | none => .missing []
  | some found => .found (found.request, sentence found.segment) found.rest

theorem readTrigger_of_scan_eq_some {vocabulary : Vocabulary} {tokens : List Text}
    {found : TriggerMatch} (scanned : vocabulary.scan tokens = some found) :
    vocabulary.readTrigger tokens =
      .found (found.request, sentence found.segment) found.rest := by
  rw [readTrigger, scanned]

theorem readTrigger_result_eq_none_iff {vocabulary : Vocabulary} {tokens : List Text} :
    (vocabulary.readTrigger tokens).result = .ok none ↔ vocabulary.scan tokens = none := by
  rw [readTrigger]
  cases vocabulary.scan tokens <;> simp

/-- So a controller hears what stands behind the wake word: the text that it reads up to the
trigger is the callsign, and what is left are the fields. -/
theorem hearAddressed_eq_readTrigger {controller : Controller}
    (ownedPhrases : HaveOwnedPhrases controller.vocabulary.triggers)
    (longestFirst : AreLongestFirst controller.vocabulary.triggers) {tokens : List Text}
    (areWords : ∀ token ∈ tokens, IsWord token) :
    controller.hearAddressed tokens = do
      let reading := controller.vocabulary.readTrigger tokens
      match ← reading.result with
      | none => return .noTrigger
      | some (request, segment) =>
        let callsign := controller.vocabulary.decodeCallsign (words segment)
        if callsign.isValid then
          let fields ← controller.vocabulary.readRequest request callsign.text reading.rest
          return (fields.map Hearing.understood).getD (.noRequest request callsign.text)
        else return .noCallsign (words segment) := by
  rw [Controller.hearAddressed, readTrigger]
  rcases scan_cases ownedPhrases longestFirst tokens with
    ⟨nothing, _⟩ | ⟨ending, trigger, selects, found⟩
  · rw [nothing]
    rfl
  · have segmentWords : words (sentence (trigger.matchAt tokens ending).segment) =
        (trigger.matchAt tokens ending).segment :=
      words_sentence fun token member => areWords token (List.mem_of_mem_take member)
    rw [found]
    simp only [Reading.found_result, Reading.found_rest]
    show _ = ite _ _ _
    rw [segmentWords]
    rfl

/-- The standard vocabulary with phrases that end with other phrases. -/
def nestedPhrases : Vocabulary :=
  { standard with
    triggers :=
      [⟨["big".toList, "radio".toList, "check".toList], .alphaCheck⟩,
       ⟨["bogey".toList, "dope".toList], .bogeyDope⟩,
       ⟨["radio".toList, "check".toList], .radioCheck⟩,
       ⟨["check".toList], .alphaCheck⟩,
       ⟨["dope".toList], .bogeyDope⟩,
       ⟨["declare".toList], .declare⟩,
       ⟨["picture".toList], .picture⟩,
       ⟨["spiked".toList], .spiked⟩,
       ⟨["snaplock".toList], .snaplock⟩] }

/-- The definition of this vocabulary. -/
def nestedPhrasesDefinition : Document :=
  nestedPhrases.definitionIn ⟨RequestWord.all, List.finRange 10, ContactCategory.all⟩

theorem ofDocument_nestedPhrasesDefinition :
    ofDocument nestedPhrasesDefinition = .ok nestedPhrases :=
  ofDocument_standardWith (by decide +kernel) (by decide +kernel)
    ⟨by decide +kernel, by decide +kernel⟩ (by decide +kernel)

/-- Among the tokens ahead of a cursor an accepted vocabulary finds no trigger exactly if no
phrase stands there. Otherwise it finds the longest phrase that ends at the first position where
any phrase ends: it gives the request of the phrase and the text of the tokens before it, and
the cursor moves on to that position. Triggers in another order give the same, as long as longer
phrases stand before shorter ones. -/
theorem read_readTrigger {definition : Document} {vocabulary : Vocabulary}
    (accepted : ofDocument definition = .ok vocabulary) {cursor : Cursor} {tokens : List Text}
    (ahead : cursor.ahead = .ok tokens) :
    ((cursor.read vocabulary.readTrigger).1 = .ok none ↔
        ∀ trigger ∈ vocabulary.triggers, ¬trigger.phrase <:+: tokens) ∧
      ((∃ trigger ∈ vocabulary.triggers, trigger.phrase <:+: tokens) →
        ∃ ending trigger before, Selects vocabulary.triggers tokens ending trigger ∧
          before ++ trigger.phrase = tokens.take ending ∧
            cursor.read vocabulary.readTrigger =
              (.ok (some (trigger.request, sentence before)),
                { cursor with position := cursor.position + ending })) ∧
        ∀ reordered : List Trigger, reordered.Perm vocabulary.triggers →
          AreLongestFirst reordered →
            cursor.read { vocabulary with triggers := reordered }.readTrigger =
              cursor.read vocabulary.readTrigger := by
  obtain ⟨ownedPhrases, longestFirst⟩ := ofDocument_triggers accepted
  refine ⟨?_, ?_, fun reordered isPerm stillLongestFirst => ?_⟩
  · rw [Cursor.read_of_ahead ahead, readTrigger_result_eq_none_iff,
      scan_eq_none_iff ownedPhrases longestFirst]
  · rintro ⟨listed, member, isInfix⟩
    rcases scan_cases ownedPhrases longestFirst tokens with
      ⟨_, never⟩ | ⟨ending, trigger, selects, found⟩
    · exact absurd isInfix (never listed member)
    · exact ⟨ending, trigger, _, selects, Trigger.matchAt_segment selects.ends,
        Cursor.read_of_found ahead selects.ends.1 (readTrigger_of_scan_eq_some found)⟩
  · rw [Cursor.read_of_ahead ahead, Cursor.read_of_ahead ahead, readTrigger, readTrigger,
      scan_eq_of_perm ownedPhrases longestFirst isPerm stillLongestFirst]

/-- A cursor behind a wake word, with a phrase of three words ahead that ends with two others. -/
theorem read_readTrigger_nestedPhrases :
    let cursor : Cursor := ⟨words "anyface eagle 1 big radio check spiked".toList, 1⟩
    let tokens := words "eagle 1 big radio check spiked".toList
    let reordered := nestedPhrases.triggers.take 1 ++
      ((nestedPhrases.triggers.drop 1).take 2).reverse ++ (nestedPhrases.triggers.drop 3).reverse
    ofDocument nestedPhrasesDefinition = .ok nestedPhrases ∧ cursor.ahead = .ok tokens ∧
      ((∃ trigger ∈ nestedPhrases.triggers, trigger.phrase <:+: tokens) ∧
        ∃ ending trigger before, Selects nestedPhrases.triggers tokens ending trigger ∧
          before ++ trigger.phrase = tokens.take ending ∧
            cursor.read nestedPhrases.readTrigger =
              (.ok (some (trigger.request, sentence before)),
                { cursor with position := cursor.position + ending })) ∧
        reordered.Perm nestedPhrases.triggers ∧ AreLongestFirst reordered ∧
          cursor.read { nestedPhrases with triggers := reordered }.readTrigger =
            cursor.read nestedPhrases.readTrigger := by
  intro cursor tokens reordered
  have ahead : cursor.ahead = .ok tokens := by decide +kernel
  have present : ∃ trigger ∈ nestedPhrases.triggers, trigger.phrase <:+: tokens := by
    decide +kernel
  have isPerm : reordered.Perm nestedPhrases.triggers := by decide +kernel
  have stillLongestFirst : AreLongestFirst reordered := by
    unfold AreLongestFirst
    decide +kernel
  obtain ⟨_, found, unordered⟩ := read_readTrigger ofDocument_nestedPhrasesDefinition ahead
  exact ⟨ofDocument_nestedPhrasesDefinition, ahead, ⟨present, found present⟩, isPerm,
    stillLongestFirst, unordered reordered isPerm stillLongestFirst⟩

end Vocabulary

end RadioCall
