/-
This file compares the two places where a callsign is refused unless it is one word. The
settings count the words of what is given; a controller counts the words of the form in which
it would be heard. In that form punctuation divides words and numbers are in digits, so a word
with a hyphen in it is taken by the settings and by no controller, and two words that spell a
number the other way round. What holds no punctuation and no number words is treated alike, and
the settings never name another controller than the one that is named by what was given.
-/

import RadioCall.Proofs.Reception
import RadioCall.Proofs.Settings.Soundness

namespace RadioCall

/-! ### Punctuation as a divider -/

/-- Whether a character belongs to a word of a transmission: it is no blank and no punctuation. -/
def isSpoken (character : Char) : Bool :=
  !isBlank character && !isPunctuation character

theorem beginsWith_separate (text : Text) :
    beginsWith (fun character => !isBlank character) (separate false text) =
      beginsWith isSpoken text := by
  cases text with
  | nil => rfl
  | cons character rest =>
    rw [separate]
    split
    · next isMark =>
      rw [if_neg Bool.false_ne_true]
      simp only [beginsWith, isSpoken, isMark, Bool.not_true, Bool.and_false]
      decide
    · next isPlain => simp only [beginsWith, isSpoken, isPlain, Bool.not_false, Bool.and_true]

/-- The words that are left once punctuation is replaced are the runs without it. -/
theorem words_separate (after : Bool) (text : Text) :
    words (separate after text) = runsOf isSpoken text := by
  induction text generalizing after with
  | nil => rfl
  | cons character rest ih =>
    rw [separate]
    split
    · next isMark =>
      have unspoken : ¬isSpoken character := by simp [isSpoken, isMark]
      rw [runsOf_cons_of_neg rest unspoken]
      split
      · exact ih true
      · exact (words_append_cons [] (by decide) _).trans (ih true)
    · next isPlain =>
      have sameTest : isSpoken character = !isBlank character := by simp [isSpoken, isPlain]
      rw [words, runsOf, runsOf, beginsWith_separate, sameTest, ← ih false]
      rfl

/-! ### Word by word -/

/-- A text is brought into small letters without punctuation word by word. -/
theorem words_replacePunctuation_lower (text : Text) :
    words (replacePunctuation (lower text)) =
      (words text).flatMap fun word => words (replacePunctuation (lower word)) := by
  by_cases hasBlank : ∃ blank ∈ text, isBlank blank
  · obtain ⟨blank, member, isBlank⟩ := hasBlank
    obtain ⟨first, rest, rfl⟩ := List.append_of_mem member
    rw [replacePunctuation_lower_append_blank first isBlank, words_append_cons _ isBlank,
      words_append_cons _ isBlank, List.flatMap_append, words_replacePunctuation_lower first,
      words_replacePunctuation_lower rest]
  · rcases List.eq_nil_or_concat text with rfl | ⟨_, _, isText⟩
    · rfl
    · have isWord : IsWord text := by
        refine ⟨by simp [isText], fun character member => ?_⟩
        exact Bool.eq_false_iff.mpr fun isBlank => hasBlank ⟨character, member, isBlank⟩
      rw [words_of_isWord isWord, List.flatMap_singleton]
termination_by text.length
decreasing_by all_goals simp +arith [*]

/-- The only word of a text is heard like the text, also in small letters. -/
theorem tokens_lower_of_words_eq_singleton {given word : Text} (single : words given = [word]) :
    tokens (lower word) = tokens given := by
  have small : lower (lower word) = lower word :=
    lower_of_isSmall fun _ member => isSmall_of_mem_lower member
  rw [tokens_eq_of_words, tokens_eq_of_words given, small, words_replacePunctuation_lower given,
    single, List.flatMap_singleton]

/-- Without numbers the tokens of a text are its runs without blanks and punctuation, in small
letters. -/
theorem tokens_of_holdsNoNumber {given : Text}
    (noNumber : HoldsNoNumber (replacePunctuation (lower given))) :
    tokens given = .ok (runsOf isSpoken (lower given)) := by
  have unchanged : sanitize given = .ok (replacePunctuation (lower given)) :=
    expandNumbers_eq_ok_iff.mpr noNumber.writes
  rw [tokens, unchanged, ← words_separate false]
  rfl

/-- Without numbers and punctuation the tokens of a text are its words, in small letters. -/
theorem tokens_of_plain {given : Text} (noNumber : HoldsNoNumber (replacePunctuation (lower given)))
    (plain : ∀ character ∈ given, isPunctuation character = false) :
    tokens given = .ok ((words given).map lower) := by
  have alone {text : Text} (plain : ∀ character ∈ text, isPunctuation character = false) :
      replacePunctuation (lower text) = lower text :=
    separate_of_plain (fun _ member => isPunctuation_of_mem_lower plain member) false
  have wordByWord : ∀ word ∈ words given,
      words (replacePunctuation (lower word)) = [lower word] := by
    intro word member
    have inGiven : word ⊆ given := subset_of_mem_runsOf member
    rw [alone fun character inWord => plain character (inGiven inWord)]
    exact words_of_isWord (isWord_of_mem_words member).lower
  rw [tokens_of_holdsNoNumber noNumber, ← words_separate false, ← replacePunctuation,
    words_replacePunctuation_lower, List.flatMap_congr wordByWord, List.map_eq_flatMap]

/-! ### The two ways to choose a callsign -/

theorem Controller.exists_ofCallsign_eq_ok_iff {given : Text} {vocabulary : Vocabulary} :
    (∃ controller, ofCallsign given vocabulary = .ok controller) ↔
      ∃ heard, tokens given = .ok [heard] := by
  simp only [ofCallsign_eq_ok_iff]
  constructor
  · rintro ⟨controller, isHeard, -⟩
    exact ⟨controller.callsign, isHeard⟩
  · rintro ⟨heard, isHeard⟩
    exact ⟨⟨heard, vocabulary⟩, isHeard, rfl⟩

namespace Settings

theorem exists_setCallsign_eq_ok_iff {settings : Settings} {given : Text} :
    (∃ changed, settings.setCallsign given = .ok changed) ↔ ∃ word, words given = [word] := by
  constructor
  · rintro ⟨changed, accepted⟩
    obtain ⟨word, single, -⟩ := setCallsign_eq_ok accepted
    exact ⟨word, single⟩
  · rintro ⟨word, single⟩
    exact ⟨_, by rw [setCallsign, single]⟩

/-- The settings take one word and a controller one token. What holds no number words is taken
by a controller if it is one run without blanks and punctuation in small letters, so the two
agree on what holds no punctuation either. And settings that took a callsign name the same
controller as the callsign itself, or neither names one. -/
theorem setCallsign_against_ofCallsign (settings : Settings) (vocabulary : Vocabulary)
    (given : Text) :
    ((∃ changed, settings.setCallsign given = .ok changed) ↔ ∃ word, words given = [word]) ∧
    ((∃ controller, Controller.ofCallsign given vocabulary = .ok controller) ↔
      ∃ heard, tokens given = .ok [heard]) ∧
    (HoldsNoNumber (replacePunctuation (lower given)) →
      ((∃ heard, tokens given = .ok [heard]) ↔ ∃ run, runsOf isSpoken (lower given) = [run]) ∧
      ((∀ character ∈ given, isPunctuation character = false) →
        ((∃ changed, settings.setCallsign given = .ok changed) ↔
          ∃ controller, Controller.ofCallsign given vocabulary = .ok controller))) ∧
    ∀ changed, settings.setCallsign given = .ok changed → ∀ controller,
      (changed.controllerWith vocabulary = .ok controller ↔
        Controller.ofCallsign given vocabulary = .ok controller) := by
  refine ⟨exists_setCallsign_eq_ok_iff, Controller.exists_ofCallsign_eq_ok_iff,
    fun noNumber => ⟨?_, ?_⟩, ?_⟩
  · simp only [tokens_of_holdsNoNumber noNumber, Except.ok.injEq]
  · intro plain
    rw [exists_setCallsign_eq_ok_iff, Controller.exists_ofCallsign_eq_ok_iff]
    simp only [tokens_of_plain noNumber plain, Except.ok.injEq, List.map_eq_singleton_iff]
    exact ⟨fun ⟨word, single⟩ => ⟨lower word, word, single, rfl⟩,
      fun ⟨_, word, single, _⟩ => ⟨word, single⟩⟩
  · intro changed accepted controller
    obtain ⟨word, single, rfl⟩ := setCallsign_eq_ok accepted
    have sameTokens := tokens_lower_of_words_eq_singleton single
    show Controller.ofCallsign (lower word) vocabulary = .ok controller ↔ _
    rw [Controller.ofCallsign_eq_ok_iff, Controller.ofCallsign_eq_ok_iff, sameTokens]

/-- A word with a hyphen is taken by the settings, which then name no controller; two words that
spell one number name a controller and are refused by the settings. -/
theorem setCallsign_against_ofCallsign_eitherWay :
    let hyphen := "dark-star".toList
    let number := "twenty two".toList
    ((∃ changed, initial.setCallsign hyphen = .ok changed ∧
        ∀ controller, changed.controllerWith .standard ≠ .ok controller) ∧
      ¬∃ controller, Controller.ofCallsign hyphen .standard = .ok controller) ∧
    (¬∃ changed, initial.setCallsign number = .ok changed) ∧
      ∃ controller, Controller.ofCallsign number .standard = .ok controller := by
  intro hyphen number
  obtain ⟨hyphenSet, hyphenNames, -, sameController⟩ :=
    setCallsign_against_ofCallsign initial .standard hyphen
  obtain ⟨numberSet, numberNames, -, -⟩ := setCallsign_against_ofCallsign initial .standard number
  have twoTokens : tokens hyphen = .ok ["dark".toList, "star".toList] := by decide +kernel
  have noController : ¬∃ controller, Controller.ofCallsign hyphen .standard = .ok controller := by
    rw [hyphenNames, twoTokens]
    rintro ⟨_, same⟩
    cases same
  obtain ⟨changed, accepted⟩ := hyphenSet.mpr ⟨hyphen, by decide⟩
  refine ⟨⟨⟨changed, accepted, fun controller made => ?_⟩, noController⟩, ?_, ?_⟩
  · exact noController ⟨controller, (sameController changed accepted controller).mp made⟩
  · have twoWords : words number = ["twenty".toList, "two".toList] := by decide
    rw [numberSet, twoWords]
    rintro ⟨_, same⟩
    cases same
  · exact numberNames.mpr ⟨"22".toList, by decide +kernel⟩

end Settings

end RadioCall
