/-
This file says when a callsign is valid and where it ends. A digit counts if it is the first
word, or if the word after the first begins with it; every later digit belongs to a callsign
that is valid already, because decoding goes past a word only if the word is made of digits.
The first word that is not made of digits ends the callsign. With the standard vocabulary its
first letters may still add zeros to it, because the letter o is a word for the digit.
-/

import RadioCall.Callsign
import RadioCall.Proofs.Phrase
import RadioCall.Proofs.Text.Words
import RadioCall.Vocabulary.Standard

namespace RadioCall

namespace Vocabulary

/-! ### Digits that a token begins with -/

/-- Whether a token begins with a digit: it is a digit word, or its first character is. -/
def beginsWithDigit (vocabulary : Vocabulary) (token : Text) : Bool :=
  vocabulary.isDigitWord token || token.head?.any fun character =>
    vocabulary.isDigitWord [character]

/-- Whether a digit is heard where decoding a callsign looks for the first one. -/
def holdsDigit (vocabulary : Vocabulary) : List Text → Bool
  | [] => false
  | first :: rest => vocabulary.isDigitWord first || rest.head?.any vocabulary.beginsWithDigit

variable {vocabulary : Vocabulary}

theorem leadingDigits_digits_ne_nil_iff {token : Text} :
    (vocabulary.leadingDigits token).digits ≠ [] ↔ vocabulary.beginsWithDigit token := by
  rw [leadingDigits, beginsWithDigit, isDigitWord]
  cases spelled : vocabulary.digit? token with
  | some digit => simp
  | none =>
    cases token with
    | nil => simp [characterDigits]
    | cons character rest =>
      cases first : vocabulary.digit? [character] with
      | some digit => simp [characterDigits, first, isDigitWord]
      | none => simp [characterDigits, first, isDigitWord]

/-- A token that is made of digits holds one, unless it is empty. -/
theorem leadingDigits_digits_ne_nil_of_isComplete {token : Text} (nonempty : token ≠ [])
    (complete : (vocabulary.leadingDigits token).isComplete) :
    (vocabulary.leadingDigits token).digits ≠ [] := by
  rw [leadingDigits] at complete ⊢
  cases spelled : vocabulary.digit? token with
  | some digit => exact List.cons_ne_nil _ _
  | none =>
    obtain ⟨character, rest, rfl⟩ := List.exists_cons_of_ne_nil nonempty
    cases first : vocabulary.digit? [character] with
    | some digit => simp [characterDigits, first]
    | none => simp [spelled, characterDigits, first] at complete

/-! ### Valid callsigns -/

/-- Digits follow the first word of a callsign exactly if the next word begins with one. -/
theorem callsignDigits_ne_nil_iff {tokens : List Text} (nonempty : ∀ token ∈ tokens, token ≠ []) :
    vocabulary.callsignDigits tokens ≠ [] ↔ tokens.head?.any vocabulary.beginsWithDigit := by
  cases tokens with
  | nil => simp [callsignDigits]
  | cons token rest =>
    rw [List.head?_cons, Option.any_some, ← leadingDigits_digits_ne_nil_iff, callsignDigits]
    split
    · next complete =>
      have hasDigit := leadingDigits_digits_ne_nil_of_isComplete
        (nonempty token List.mem_cons_self) complete
      exact ⟨fun _ => hasDigit, fun _ => List.append_ne_nil_of_left_ne_nil hasDigit _⟩
    · exact Iff.rfl

theorem decodeCallsign_isValid_iff {segment : List Text}
    (nonempty : ∀ token ∈ segment, token ≠ []) :
    (vocabulary.decodeCallsign segment).isValid ↔ vocabulary.holdsDigit segment := by
  cases segment with
  | nil => exact Iff.rfl
  | cons first rest =>
    have later : vocabulary.callsignDigits rest ≠ [] ↔ rest.head?.any vocabulary.beginsWithDigit :=
      callsignDigits_ne_nil_iff fun token member =>
        nonempty token (List.mem_cons_of_mem first member)
    rw [decodeCallsign, holdsDigit, isDigitWord]
    cases spelled : vocabulary.digit? first with
    | some digit => simp
    | none => simpa using later

/-- A valid callsign has a text. -/
theorem decodeCallsign_text_ne_nil {segment : List Text}
    (valid : (vocabulary.decodeCallsign segment).isValid) :
    (vocabulary.decodeCallsign segment).text ≠ [] := by
  cases segment with
  | nil => cases valid
  | cons first rest =>
    rw [decodeCallsign] at valid ⊢
    cases spelled : vocabulary.digit? first with
    | some digit => exact sentence_cons_ne_nil (Nat.toDigits_ne_nil) _
    | none =>
      cases digits : vocabulary.callsignDigits rest with
      | nil => simp [spelled, digits] at valid
      | cons digit others =>
        rw [List.map_cons, sentence_cons_cons]
        exact List.append_ne_nil_of_right_ne_nil _ (List.cons_ne_nil _ _)

/-! ### The digits of a callsign -/

/-- A token that is made of digits adds them, and decoding goes on behind it. -/
theorem callsignDigits_cons_of_decodeDigits {token : Text} {digits : List Digit}
    (decoded : vocabulary.decodeDigits token = some digits) (rest : List Text) :
    vocabulary.callsignDigits (token :: rest) = digits ++ vocabulary.callsignDigits rest := by
  simp only [decodeDigits, Option.ite_none_right_eq_some, Bool.and_eq_true, Option.some.injEq]
    at decoded
  obtain ⟨⟨complete, _⟩, rfl⟩ := decoded
  rw [callsignDigits, if_pos complete]

/-- Tokens that are made of digits add them to those of the tokens behind. -/
theorem callsignDigits_append {front : List Text}
    (areDigits : ∀ token ∈ front, vocabulary.decodeDigits token ≠ none) (rest : List Text) :
    vocabulary.callsignDigits (front ++ rest) =
      vocabulary.callsignDigits front ++ vocabulary.callsignDigits rest := by
  induction front with
  | nil => rfl
  | cons token others ih =>
    obtain ⟨isDigits, areOthers⟩ := List.forall_mem_cons.mp areDigits
    obtain ⟨digits, decoded⟩ := Option.ne_none_iff_exists'.mp isDigits
    rw [List.cons_append, callsignDigits_cons_of_decodeDigits decoded,
      callsignDigits_cons_of_decodeDigits decoded, ih areOthers, List.append_assoc]

theorem digitNumeral_inj : ∀ first second : Digit,
    digitNumeral first = digitNumeral second → first = second := by
  decide

theorem length_digitNumeral : ∀ digit : Digit, (digitNumeral digit).length = 1 := by
  decide

/-- A sentence shows the digits behind its first word. -/
theorem eq_of_sentence_cons_map_digitNumeral {word : Text} {digits others : List Digit}
    (same : sentence (word :: digits.map digitNumeral) =
      sentence (word :: others.map digitNumeral)) : digits = others := by
  rw [sentence_cons, sentence_cons, List.append_cancel_left_eq] at same
  induction digits generalizing others with
  | nil =>
    cases others with
    | nil => rfl
    | cons other rest => cases same
  | cons digit rest ih =>
    cases others with
    | nil => cases same
    | cons other more =>
      rw [List.map_cons, List.map_cons, List.flatMap_cons, List.flatMap_cons] at same
      obtain ⟨sameNumeral, sameRest⟩ := List.append_inj same (by
        rw [List.length_cons, List.length_cons, length_digitNumeral, length_digitNumeral])
      rw [digitNumeral_inj digit other (List.cons_eq_cons.mp sameNumeral).2, ih sameRest]

/-- Behind the same first word, callsigns are the same exactly if their digits are. -/
theorem decodeCallsign_cons_eq_iff {word : Text} {rest others : List Text} :
    vocabulary.decodeCallsign (word :: rest) = vocabulary.decodeCallsign (word :: others) ↔
      vocabulary.callsignDigits rest = vocabulary.callsignDigits others := by
  constructor
  · intro same
    have sameText := congrArg Callsign.text same
    rw [decodeCallsign, decodeCallsign] at sameText
    cases spelled : vocabulary.digit? word with
    | some digit =>
      simp only [spelled, List.map_cons] at sameText
      exact eq_of_sentence_cons_map_digitNumeral sameText
    | none =>
      simp only [spelled] at sameText
      exact eq_of_sentence_cons_map_digitNumeral sameText
  · intro same
    rw [decodeCallsign, decodeCallsign, same]

/-! ### The end of a callsign -/

/-- Of the characters that are no decimal digits the standard vocabulary knows the letter o. -/
theorem standard_digit?_singleton {character : Char} (noDigit : ¬isDecimalDigit character) :
    standard.digit? [character] = if character = 'o' then some 0 else none := by
  split
  · next isO =>
    rw [isO]
    decide
  · next other =>
    cases found : standard.digit? [character] with
    | none => rfl
    | some digit =>
      have single : ∀ entry ∈ standard.digits, entry.1.length = 1 →
          entry.1 = ['o'] ∨ entry.1.all isDecimalDigit := by decide
      obtain ⟨before, after, split, _⟩ := List.lookup_eq_some_iff.mp found
      have listed : ([character], digit) ∈ standard.digits := split ▸ by simp
      rcases single _ listed rfl with isO | isDigit
      · exact absurd (List.singleton_inj.mp isO) other
      · exact absurd (List.all_eq_true.mp isDigit character List.mem_cons_self) noDigit

/-- The letters o that a text begins with are digits, and nothing behind them. -/
theorem standard_characterDigits {text : Text}
    (noDigit : ∀ character ∈ text, ¬isDecimalDigit character) :
    standard.characterDigits text =
      ⟨List.replicate (text.takeWhile (· = 'o')).length 0, text.all (· = 'o')⟩ := by
  induction text with
  | nil => rfl
  | cons character rest ih =>
    obtain ⟨isNone, noneRest⟩ := List.forall_mem_cons.mp noDigit
    rw [characterDigits, standard_digit?_singleton isNone]
    by_cases isO : character = 'o'
    · simp [isO, ih noneRest, List.replicate_succ]
    · simp [isO]

/-- As many zeros as letters o stand at the beginning of a text. -/
def leadingZeros (text : Text) : List Text :=
  List.replicate (text.takeWhile (· = 'o')).length "0".toList

theorem callsignDigits_leadingZeros_append (text : Text) (rest : List Text) :
    standard.callsignDigits (leadingZeros text ++ rest) =
      List.replicate (text.takeWhile (· = 'o')).length 0 ++ standard.callsignDigits rest := by
  have zero : standard.decodeDigits "0".toList = some [0] := by decide
  rw [leadingZeros]
  induction (text.takeWhile (· = 'o')).length with
  | zero => rfl
  | succ count ih =>
    rw [List.replicate_succ, List.cons_append, callsignDigits_cons_of_decodeDigits zero, ih]
    rfl

section

variable {other : Text} (notDigitWord : ¬standard.isDigitWord other)
  (noDigit : ∀ character ∈ other, ¬isDecimalDigit character)

include notDigitWord noDigit

/-- A word without digits, other than a digit word, adds a zero for each letter o it begins
with, and decoding goes on behind it only if it holds no other letter. -/
theorem callsignDigits_word_cons (rest : List Text) :
    standard.callsignDigits (other :: rest) =
      List.replicate (other.takeWhile (· = 'o')).length 0 ++
        standard.callsignDigits (if other.all (· = 'o') then rest else []) := by
  have unknown : standard.digit? other = none := by
    simpa only [isDigitWord, Option.not_isSome_iff_eq_none] using notDigitWord
  have leading : standard.leadingDigits other =
      ⟨List.replicate (other.takeWhile (· = 'o')).length 0, other.all (· = 'o')⟩ := by
    rw [leadingDigits, unknown]
    exact standard_characterDigits noDigit
  rw [callsignDigits, leading]
  split
  · rfl
  · exact (List.append_nil _).symm

theorem callsignDigits_word_cons_eq_nil_iff (nonempty : other ≠ []) (rest : List Text) :
    standard.callsignDigits (other :: rest) = [] ↔ other.head? ≠ some 'o' := by
  obtain ⟨first, letters, rfl⟩ := List.exists_cons_of_ne_nil nonempty
  rw [callsignDigits_word_cons notDigitWord noDigit]
  by_cases isO : first = 'o'
  · simp [isO]
  · simp [isO, callsignDigits]

/-- A word without digits, other than a digit word, that stands behind a callsign is heard as a
zero for each letter o it begins with; what follows matters only if it holds no other letter.
So the callsign ends in front of the word exactly if the word does not begin with that letter. -/
theorem decodeCallsign_before_word (word : Text) {front : List Text}
    (areDigits : ∀ token ∈ front, standard.decodeDigits token ≠ none) (nonempty : other ≠ [])
    (rest : List Text) :
    (standard.decodeCallsign (word :: (front ++ other :: rest)) =
        standard.decodeCallsign (word :: front) ↔ other.head? ≠ some 'o') ∧
      standard.decodeCallsign (word :: (front ++ other :: rest)) =
        standard.decodeCallsign (word ::
          (front ++ (leadingZeros other ++ if other.all (· = 'o') then rest else []))) := by
  constructor
  · rw [decodeCallsign_cons_eq_iff, callsignDigits_append areDigits, List.append_right_eq_self,
      callsignDigits_word_cons_eq_nil_iff notDigitWord noDigit nonempty]
  · rw [decodeCallsign_cons_eq_iff, callsignDigits_append areDigits,
      callsignDigits_append areDigits, callsignDigits_leadingZeros_append,
      callsignDigits_word_cons notDigitWord noDigit]

end

/-- A callsign with a word behind it that begins with the letter, and with one that does not. -/
theorem decodeCallsign_before_over :
    let word := "eagle".toList
    let front := ["1".toList, "fife".toList]
    let signOff := "over".toList
    let group := "flight".toList
    (∀ token ∈ front, standard.decodeDigits token ≠ none) ∧
      (signOff ≠ [] ∧ ¬standard.isDigitWord signOff ∧
        (∀ character ∈ signOff, ¬isDecimalDigit character) ∧
          standard.decodeCallsign (word :: (front ++ [signOff, "2".toList])) ≠
            standard.decodeCallsign (word :: front)) ∧
        group ≠ [] ∧ ¬standard.isDigitWord group ∧
          (∀ character ∈ group, ¬isDecimalDigit character) ∧
            standard.decodeCallsign (word :: (front ++ [group, "2".toList])) =
              standard.decodeCallsign (word :: front) := by
  intro word front signOff group
  have areDigits : ∀ token ∈ front, standard.decodeDigits token ≠ none := by decide
  have signOffWord : ¬standard.isDigitWord signOff := by decide
  have signOffLetters : ∀ character ∈ signOff, ¬isDecimalDigit character :=
    List.any_eq_false.mp (by decide)
  have groupWord : ¬standard.isDigitWord group := by decide
  have groupLetters : ∀ character ∈ group, ¬isDecimalDigit character :=
    List.any_eq_false.mp (by decide)
  have beforeSignOff := (decodeCallsign_before_word signOffWord signOffLetters word areDigits
    (List.cons_ne_nil _ _) ["2".toList]).1
  have beforeGroup := (decodeCallsign_before_word groupWord groupLetters word areDigits
    (List.cons_ne_nil _ _) ["2".toList]).1
  exact ⟨areDigits, ⟨List.cons_ne_nil _ _, signOffWord, signOffLetters, fun same =>
      beforeSignOff.mp same rfl⟩, List.cons_ne_nil _ _, groupWord, groupLetters,
    beforeGroup.mpr (by decide)⟩

end Vocabulary

end RadioCall
