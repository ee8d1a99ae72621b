/-
This file is about what does not matter to how a transmission is received. It is heard by
its words: punctuation, blanks and capitals are of no consequence beyond the words they
leave. The form in which it is read is final, so reading that form again gives the same. And
a controller is addressed by its callsign as well as by the universal alias, with any
transmission behind it, because the callsign is heard there as it was heard on its own.
-/

import RadioCall.Proofs.Number.Spacing
import RadioCall.Proofs.Number.Stable
import RadioCall.Proofs.Outcome
import RadioCall.Proofs.Transmission

namespace RadioCall

/-! ### Words only -/

/-- The tokens of a transmission are those of the sentence of its words. -/
theorem tokens_eq_of_words (text : Text) :
    tokens text =
      words <$> expandNumbers (sentence (words (replacePunctuation (lower text)))) :=
  words_expandNumbers (replacePunctuation (lower text))

/-- Two transmissions of the same words are heard alike by every controller, whatever
punctuation, blanks and capitals they are written with. -/
theorem Controller.parse_eq_of_words_eq (controller : Controller) {first second : Text}
    (same : words (replacePunctuation (lower first)) = words (replacePunctuation (lower second))) :
    tokens first = tokens second ∧ controller.parse first = controller.parse second := by
  have sameTokens : tokens first = tokens second := by
    rw [tokens_eq_of_words, tokens_eq_of_words, same]
  refine ⟨sameTokens, ?_⟩
  rw [parse, parse, hear, hear, sameTokens]

/-- Other marks and blanks between the same words, around a number and a sign that is no
punctuation. -/
theorem Controller.parse_eq_of_words_eq_marks :
    let controller : Controller := ⟨"magic".toList, .standard⟩
    let first := "Magic, Eagle one-one: $two hundred (five) BOGEY DOPE!".toList
    let second := "  magic\teagle... one one\n$Two \"hundred\" - five; bogey dope".toList
    words (replacePunctuation (lower first)) = words (replacePunctuation (lower second)) ∧
      tokens first = tokens second ∧ controller.parse first = controller.parse second := by
  have same : words (replacePunctuation
        (lower "Magic, Eagle one-one: $two hundred (five) BOGEY DOPE!".toList)) =
      words (replacePunctuation
        (lower "  magic\teagle... one one\n$Two \"hundred\" - five; bogey dope".toList)) := by
    decide +kernel
  exact ⟨same, Controller.parse_eq_of_words_eq ⟨"magic".toList, .standard⟩ same⟩

/-! ### The final form -/

/-- The form in which a transmission is read is its own form, and holds no punctuation. -/
theorem sanitize_sanitize (text : Text) :
    (sanitize text >>= sanitize) = sanitize text ∧
      ∀ result, sanitize text = .ok result →
        ∀ character ∈ result, isPunctuation character = false := by
  constructor
  · cases sanitized : sanitize text with
    | error fault => rfl
    | ok result =>
      have settled : ∀ character ∈ result, IsSettled character :=
        fun _ member => isSettled_of_mem_sanitize sanitized member
      show sanitize result = .ok result
      rw [sanitize_of_isSettled settled]
      exact expandNumbers_of_expandNumbers sanitized
  · intro result sanitized character member
    exact (isSettled_of_mem_sanitize sanitized member).plain

/-- Scales that are left as words lose the digits before them and stay as they are. -/
theorem sanitize_sanitize_scales :
    let text := "One, two thousand three: zero hundred-five.".toList
    let result := "1 2 thousand three 0 hundred five ".toList
    sanitize text = .ok result ∧ (sanitize text >>= sanitize) = sanitize text ∧
      ∀ character ∈ result, isPunctuation character = false := by
  have sanitized : sanitize "One, two thousand three: zero hundred-five.".toList =
      .ok "1 2 thousand three 0 hundred five ".toList := by
    decide +kernel
  obtain ⟨same, plain⟩ :=
    sanitize_sanitize "One, two thousand three: zero hundred-five.".toList
  exact ⟨sanitized, same, plain _ sanitized⟩

/-! ### The wake word -/

/-- In front of a transmission, a text that is heard as one word and holds no number is
heard as it is on its own. -/
theorem tokens_append_space {given word : Text} (single : tokens given = .ok [word])
    (noNumber : HoldsNoNumber (replacePunctuation (lower given))) (text : Text) :
    tokens (given ++ ' ' :: text) = (word :: ·) <$> tokens text := by
  have unchanged : sanitize given = .ok (replacePunctuation (lower given)) :=
    expandNumbers_eq_ok_iff.mpr noNumber.writes
  have isSingle : words (replacePunctuation (lower given)) = [word] := by
    rw [tokens, unchanged] at single
    exact Except.ok.inj single
  have isWord : IsWord word := isWord_of_mem_words (isSingle ▸ List.mem_cons_self)
  have alone : HoldsNoNumber word := fun fragment member =>
    noNumber fragment (mem_fragments_of_words_eq_singleton isSingle member)
  rw [tokens_eq_of_words, tokens_eq_of_words, replacePunctuation_lower_append_blank _ (by decide),
    words_append_cons _ (by decide), isSingle, List.singleton_append]
  exact words_expandNumbers_cons isWord alone fun _ member => isWord_of_mem_words member

namespace Controller

variable {controller : Controller}

theorem isWakeWord_iff {token : Text} :
    controller.isWakeWord token ↔
      token = controller.callsign ∨ token = controller.vocabulary.universalAlias := by
  rw [isWakeWord, Bool.or_eq_true, decide_eq_true_eq, decide_eq_true_eq]

/-- Behind a wake word the rest of the tokens decides. -/
theorem parse_of_isWakeWord {wake text rest : Text} (isWake : controller.isWakeWord wake)
    (isHeard : tokens text = (wake :: ·) <$> tokens rest) :
    controller.parse text = Hearing.outcome <$> (tokens rest >>= controller.hearAddressed) := by
  rw [parse, hear, isHeard]
  cases tokens rest with
  | error fault => rfl
  | ok others =>
    have behind : controller.hearTokens (wake :: others) = controller.hearAddressed others :=
      if_pos isWake
    exact congrArg (Hearing.outcome <$> ·) behind

/-- Who was addressed hears so. -/
theorem hearAddressed_ne_notAddressed {others : List Text} {hearing : Hearing}
    (understood : controller.hearAddressed others = .ok hearing) :
    hearing.outcome ≠ .notAddressed := by
  intro notAddressed
  rw [hearAddressed] at understood
  split at understood
  · rw [← Except.ok.inj understood] at notAddressed
    cases notAddressed
  · next found _ =>
    simp only at understood
    split at understood
    · obtain ⟨request, _, rfl⟩ := map_eq_ok_iff.mp understood
      cases request with
      | none => cases notAddressed
      | some request => cases notAddressed
    · rw [← Except.ok.inj understood] at notAddressed
      cases notAddressed

/-- A controller with no number in its callsign is addressed by it in front of any
transmission, and hears the same as if it were addressed by the universal alias. -/
theorem parse_called {given : Text} (named : ofCallsign given .standard = .ok controller)
    (noNumber : HoldsNoNumber (replacePunctuation (lower given))) (text : Text) :
    tokens (given ++ ' ' :: text) = (controller.callsign :: ·) <$> tokens text ∧
      controller.parse (given ++ ' ' :: text) ≠ .ok .notAddressed ∧
        controller.parse (given ++ ' ' :: text) =
          controller.parse ("anyface".toList ++ ' ' :: text) := by
  obtain ⟨isName, isStandard⟩ := ofCallsign_eq_ok_iff.mp named
  have byName := tokens_append_space isName noNumber text
  have byAlias : tokens ("anyface".toList ++ ' ' :: text) =
      ("anyface".toList :: ·) <$> tokens text :=
    tokens_append_space (by decide +kernel) (by decide +kernel) text
  have nameWakes : controller.isWakeWord controller.callsign := isWakeWord_iff.mpr (.inl rfl)
  have aliasWakes : controller.isWakeWord "anyface".toList :=
    isWakeWord_iff.mpr (.inr (isStandard ▸ rfl))
  have heardByName := parse_of_isWakeWord nameWakes byName
  refine ⟨byName, fun notAddressed => ?_, ?_⟩
  · rw [heardByName] at notAddressed
    obtain ⟨hearing, isHearing, isOutcome⟩ := map_eq_ok_iff.mp notAddressed
    obtain ⟨others, _, understood⟩ := bind_eq_ok_iff.mp isHearing
    exact hearAddressed_ne_notAddressed understood isOutcome
  · rw [heardByName, parse_of_isWakeWord aliasWakes byAlias]

/-- A callsign in Greek capitals, whose last letter is written differently at the end of a
word, in front of a transmission that begins with a number. -/
theorem parse_called_final_sigma :
    let controller : Controller := ⟨"μάγος".toList, .standard⟩
    let given := "«ΜΆΓΟΣ!»".toList
    let text := "Two hundred, eagle 1 alpha check".toList
    ofCallsign given .standard = .ok controller ∧
      HoldsNoNumber (replacePunctuation (lower given)) ∧
        tokens (given ++ ' ' :: text) = (controller.callsign :: ·) <$> tokens text ∧
          controller.parse (given ++ ' ' :: text) ≠ .ok .notAddressed ∧
            controller.parse (given ++ ' ' :: text) =
              controller.parse ("anyface".toList ++ ' ' :: text) := by
  have named : ofCallsign "«ΜΆΓΟΣ!»".toList .standard = .ok ⟨"μάγος".toList, .standard⟩ := by
    decide +kernel
  have noNumber : HoldsNoNumber (replacePunctuation (lower "«ΜΆΓΟΣ!»".toList)) := by
    decide +kernel
  exact ⟨named, noNumber, parse_called named noNumber "Two hundred, eagle 1 alpha check".toList⟩

end Controller

end RadioCall
