/-
This file says what becomes of a transmission that is in the form in which it is read
already. Its characters are settled: lowercasing and replacing punctuation leave them
alone, so only its numbers are written in digits. Every transmission is settled once it has
been brought into that form.
-/

import RadioCall.Proofs.Number.Sentence
import RadioCall.Proofs.Text.LetterCase
import RadioCall.Transmission

namespace RadioCall

/-! ### Settled characters -/

/-- A character that is left alone: small and no punctuation. -/
structure IsSettled (character : Char) : Prop where
  small : IsSmall character
  plain : isPunctuation character = false

instance (character : Char) : Decidable (IsSettled character) :=
  decidable_of_iff (IsSmall character ∧ isPunctuation character = false)
    ⟨fun both => ⟨both.1, both.2⟩, fun settled => ⟨settled.small, settled.plain⟩⟩

theorem separate_of_plain {text : Text}
    (plain : ∀ character ∈ text, isPunctuation character = false)
    (after : Bool) : separate after text = text := by
  induction text generalizing after with
  | nil => rfl
  | cons character rest ih =>
    obtain ⟨isPlain, plainRest⟩ := List.forall_mem_cons.mp plain
    have notPunctuation : ¬isPunctuation character := by
      rw [isPlain]
      exact Bool.false_ne_true
    rw [separate, if_neg notPunctuation, ih plainRest]

theorem replacePunctuation_lower_of_isSettled {text : Text}
    (settled : ∀ character ∈ text, IsSettled character) :
    replacePunctuation (lower text) = text := by
  have isLower : lower text = text := lower_of_isSmall fun character member =>
    (settled character member).small
  have isPlain : separate false text = text :=
    separate_of_plain (fun character member => (settled character member).plain) false
  rw [isLower, replacePunctuation, isPlain]

/-- Of a settled text only the numbers are written anew. -/
theorem sanitize_of_isSettled {text : Text} (settled : ∀ character ∈ text, IsSettled character) :
    sanitize text = expandNumbers text := by
  rw [sanitize, replacePunctuation_lower_of_isSettled settled]

theorem mem_separate {after : Bool} {text : Text} {character : Char}
    (member : character ∈ separate after text) :
    character = ' ' ∨ (character ∈ text ∧ isPunctuation character = false) := by
  induction text generalizing after with
  | nil => cases member
  | cons first rest ih =>
    have fromRest {after : Bool} (inRest : character ∈ separate after rest) :
        character = ' ' ∨ (character ∈ first :: rest ∧ isPunctuation character = false) :=
      (ih inRest).imp_right fun found => ⟨List.mem_cons_of_mem _ found.1, found.2⟩
    rw [separate] at member
    split at member
    · split at member
      · exact fromRest member
      · rcases List.mem_cons.mp member with isSpace | inRest
        · exact .inl isSpace
        · exact fromRest inRest
    · next isPlain =>
      rcases List.mem_cons.mp member with rfl | inRest
      · exact .inr ⟨List.mem_cons_self, Bool.eq_false_iff.mpr isPlain⟩
      · exact fromRest inRest

theorem isSettled_of_mem_replacePunctuation {text : Text} {character : Char}
    (member : character ∈ replacePunctuation (lower text)) : IsSettled character := by
  rcases mem_separate member with rfl | ⟨inText, isPlain⟩
  · decide
  · exact ⟨isSmall_of_mem_lower inText, isPlain⟩

theorem isSettled_of_mem_spelling (number : NumberWord) :
    ∀ character ∈ number.spelling, IsSettled character := by
  have settled : ∀ number ∈ NumberWord.all,
      number.spelling.all fun character => IsSettled character := by decide +kernel
  intro character member
  have isSettled :=
    List.all_eq_true.mp (settled number (NumberWord.mem_all number)) character member
  exact of_decide_eq_true isSettled

theorem isSettled_of_mem_writtenWords {cardinal : Cardinal} {word : Text}
    (member : word ∈ cardinal.writtenWords) : ∀ character ∈ word, IsSettled character := by
  rw [Cardinal.writtenWords] at member
  split at member
  · obtain ⟨number, _, rfl⟩ := List.mem_map.mp member
    exact isSettled_of_mem_spelling number
  · rw [List.mem_singleton.mp member]
    refine forall_mem_decimal ?_ cardinal.value
    decide +kernel

/-- Writing numbers in digits keeps a text settled. -/
theorem isSettled_of_mem_expandNumbers {text result : Text}
    (settled : ∀ character ∈ text, IsSettled character) (expanded : expandNumbers text = .ok result)
    {character : Char} (member : character ∈ result) : IsSettled character := by
  rw [← flatMap_text_fragments result,
    fragments_of_writes (fragments_areMaximal text) (expandNumbers_eq_ok_iff.mp expanded)] at member
  obtain ⟨fragment, inResult, inFragment⟩ := List.mem_flatMap.mp member
  obtain ⟨stretch, inStretches, inPieces⟩ := List.mem_flatMap.mp inResult
  cases stretch with
  | plain other =>
    obtain rfl := List.mem_singleton.mp inPieces
    have inText := (mem_of_plain_mem_stretchesOf inStretches).1
    refine settled character ?_
    rw [← flatMap_text_fragments text]
    exact List.mem_flatMap.mpr ⟨fragment, inText, inFragment⟩
  | run source spoken =>
    rcases mem_fragments_sentence (fun _ inRun => isSolid_of_mem_runWords inRun) inPieces with
      rfl | ⟨word, inRun, rfl⟩
    · rw [List.mem_singleton.mp (show character ∈ [' '] from inFragment)]
      decide
    · obtain ⟨cardinal, _, inCardinal⟩ := List.mem_flatMap.mp inRun
      exact isSettled_of_mem_writtenWords inCardinal character inFragment

theorem isSettled_of_mem_sanitize {text result : Text} (sanitized : sanitize text = .ok result)
    {character : Char} (member : character ∈ result) : IsSettled character :=
  isSettled_of_mem_expandNumbers (fun _ => isSettled_of_mem_replacePunctuation) sanitized member

/-! ### Texts apart -/

theorem isSettled_of_isBlank {blank : Char} (isBlank : isBlank blank) : IsSettled blank := by
  have plain := @of_isBlank (fun code => !punctuationTable.covers code) (by decide +kernel)
    blank isBlank
  exact ⟨(isSmall_of_isBlank isBlank).1, (Bool.not_eq_true' _).mp plain⟩

theorem separate_append_blank (after : Bool) (first : Text) {blank : Char}
    (isBlank : isBlank blank) (second : Text) :
    separate after (first ++ blank :: second) =
      separate after first ++ blank :: replacePunctuation second := by
  induction first generalizing after with
  | nil => exact if_neg (ne_true_of_eq_false (isSettled_of_isBlank isBlank).plain)
  | cons character rest ih =>
    rw [List.cons_append, separate, separate, ih, ih]
    split
    · split
      · rfl
      · rfl
    · rfl

/-- Texts with a blank between them are brought into small letters without punctuation one
by one. -/
theorem replacePunctuation_lower_append_blank (first : Text) {blank : Char}
    (isBlank : isBlank blank) (second : Text) :
    replacePunctuation (lower (first ++ blank :: second)) =
      replacePunctuation (lower first) ++ blank :: replacePunctuation (lower second) := by
  have isLower : lower (first ++ blank :: second) = lower first ++ blank :: lower second :=
    lowerAfter_append_blank [] first isBlank second
  rw [isLower]
  exact separate_append_blank false _ isBlank _

/-! ### Kept tokens -/

/-- A word that is heard as it stands. -/
structure IsKeptToken (token : Text) : Prop where
  isWord : IsWord token
  settled : ∀ character ∈ token, IsSettled character
  kept : AreKept (fragments token)

/-- A transmission of one token gives a token that is heard as it stands. -/
theorem isKeptToken_of_tokens {text token : Text} (single : tokens text = .ok [token]) :
    IsKeptToken token := by
  obtain ⟨result, sanitized, isSingle⟩ := map_eq_ok_iff.mp single
  obtain ⟨before, after, split, _⟩ := exists_around_of_words_eq_singleton isSingle
  constructor
  · exact isWord_of_mem_words (isSingle ▸ List.mem_cons_self)
  · intro character member
    refine isSettled_of_mem_sanitize sanitized ?_
    rw [split]
    exact List.mem_append_left _ (List.mem_append_right _ member)
  · exact areKept_of_words_eq_singleton sanitized isSingle

/-- A word that comes out as it went in is heard as it stands. -/
theorem isKeptToken_of_sanitize {word : Text} (isWord : IsWord word)
    (unchanged : sanitize word = .ok word) : IsKeptToken word := by
  refine @isKeptToken_of_tokens word word ?_
  exact map_eq_ok_iff.mpr ⟨word, unchanged, words_of_isWord isWord⟩

/-! ### Transmissions of tokens -/

/-- A token of settled characters that is the word for a digit or holds no number word. -/
structure IsSimpleToken (token : Text) : Prop extends IsSimple token where
  settled : ∀ character ∈ token, IsSettled character

instance (token : Text) : Decidable (IsSimpleToken token) :=
  decidable_of_iff (IsSimple token ∧ token.all fun character => IsSettled character) <| by
    rw [List.all_eq_true]
    simp only [decide_eq_true_eq]
    exact ⟨fun both => ⟨both.1, both.2⟩, fun simple => ⟨simple.toIsSimple, simple.settled⟩⟩

/-- A token of digits is simple, and heard as it stands. -/
theorem isSimpleToken_of_digits {token : Text} (nonempty : token ≠ [])
    (digits : ∀ character ∈ token, character ∈ "0123456789".toList) :
    IsSimpleToken token ∧ heardAs token = token := by
  have allPlain : "0123456789".toList.all fun character =>
      isWordCharacter character ∧ isDecimalDigit character ∧ IsSettled character := by
    decide +kernel
  have plain (character : Char) (member : character ∈ "0123456789".toList) :
      isWordCharacter character ∧ isDecimalDigit character ∧ IsSettled character :=
    of_decide_eq_true (List.all_eq_true.mp allPlain character member)
  have solid : IsSolid token :=
    ⟨nonempty, fun character member => (plain character (digits character member)).1⟩
  have isNumeral : isNumeral token := by
    have some : token.isEmpty = false := List.isEmpty_eq_false_iff.mpr nonempty
    rw [RadioCall.isNumeral, some, Bool.not_false, Bool.true_and, List.all_eq_true]
    exact fun character member => (plain character (digits character member)).2.1
  have noNumber : ∀ fragment ∈ fragments token, fragment.number? = none := by
    intro fragment member
    rw [fragments_of_wordCharacters solid.nonempty solid.areWord, List.mem_singleton] at member
    rw [member]
    exact ofText?_of_isNumeral isNumeral
  refine ⟨⟨⟨solid.isWord, .inr noNumber⟩, fun character member => ?_⟩,
    heardAs_of_no_number noNumber⟩
  exact (plain character (digits character member)).2.2

theorem isSimpleToken_decimal (number : Nat) :
    IsSimpleToken (decimal number) ∧ heardAs (decimal number) = decimal number := by
  refine isSimpleToken_of_digits (decimal_ne_nil number) (forall_mem_decimal ?_ number)
  decide

/-- Two kept tokens are heard as they stand, and the simple tokens after them one by one;
only the first of these may stay as it is. -/
theorem tokens_sentence {wake word : Text} (keptWake : IsKeptToken wake)
    (keptWord : IsKeptToken word) {token : Text} {rest : List Text}
    (simple : ∀ other ∈ token :: rest, IsSimpleToken other) :
    ∃ first, (first = token ∨ first = heardAs token) ∧
      tokens (sentence (wake :: word :: token :: rest)) =
        .ok (wake :: word :: first :: rest.map heardAs) := by
  have settled : ∀ character ∈ sentence (wake :: word :: token :: rest), IsSettled character := by
    intro character member
    rcases mem_sentence member with rfl | ⟨other, isOther, inOther⟩
    · decide
    · rcases List.mem_cons.mp isOther with rfl | isOther
      · exact keptWake.settled character inOther
      · rcases List.mem_cons.mp isOther with rfl | isOther
        · exact keptWord.settled character inOther
        · exact (simple other isOther).settled character inOther
  have isFront : fragments (wake ++ ' ' :: word) =
      fragments wake ++ .gap [' '] :: fragments word :=
    fragments_append_space keptWake.isWord.kindOf_getLast?_ne_gap fun next isNext =>
      keptWord.isWord.kindOf_ne_gap (List.mem_of_mem_head? isNext)
  have kept : AreKept (fragments (wake ++ ' ' :: word)) := by
    rw [isFront]
    exact keptWake.kept.append keptWord.kept.cons_space
  have noGap : ∀ last ∈ (wake ++ ' ' :: word).getLast?, Fragment.kindOf last ≠ .gap := by
    intro last isLast
    rw [← List.singleton_append, ← List.append_assoc,
      List.getLast?_append_of_ne_nil _ keptWord.isWord.nonempty] at isLast
    exact keptWord.isWord.kindOf_getLast?_ne_gap last isLast
  obtain ⟨first, isFirst, expanded⟩ :=
    expandNumbers_kept_sentence kept noGap fun other member => (simple other member).toIsSimple
  have front (tokens : List Text) (following : Text) :
      sentence (wake :: word :: following :: tokens) =
        wake ++ ' ' :: word ++ ' ' :: sentence (following :: tokens) := by
    rw [sentence_cons_cons, sentence_cons_cons, List.append_assoc, List.cons_append]
  refine ⟨first, isFirst, map_eq_ok_iff.mpr ⟨_, ?_, words_sentence fun other member => ?_⟩⟩
  · rw [sanitize_of_isSettled settled, front, expanded, front]
  · have firstIsWord : IsWord first := by
      have isSimple := simple token List.mem_cons_self
      rcases isFirst with rfl | rfl
      · exact isSimple.isWord
      · exact isSimple.isWord_heardAs
    rcases List.mem_cons.mp member with rfl | member
    · exact keptWake.isWord
    · rcases List.mem_cons.mp member with rfl | member
      · exact keptWord.isWord
      · rcases List.mem_cons.mp member with rfl | member
        · exact firstIsWord
        · obtain ⟨source, isSource, rfl⟩ := List.mem_map.mp member
          exact (simple source (List.mem_cons_of_mem _ isSource)).isWord_heardAs

/-- Bringing a transmission into its tokens faults exactly if one of its spelled-out numbers
has too many digits. -/
theorem tokens_eq_error_iff {text : Text} {fault : Fault} :
    tokens text = .error fault ↔
      (∃ stretch ∈ stretches (replacePunctuation (lower text)), stretch.IsTooLong) ∧
        fault = .numberTooLong :=
  map_eq_error_iff.trans expandNumbers_eq_error_iff

end RadioCall
