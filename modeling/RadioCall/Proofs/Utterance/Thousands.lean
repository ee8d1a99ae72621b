/-
This file proves when an altitude in thousands whose digits are said one by one is read as it
was meant. Digits in English and the word for thousand are one run, and if there are several
the thousand belongs to all of them. But only English words are in the run: of digits in mixed
wording the last may be alone in it. Then the thousand is written with that digit, and reading
stops in front of it.
-/

import RadioCall.Proofs.Cursor
import RadioCall.Proofs.Number.Meeting
import RadioCall.Proofs.Utterance.Heard

namespace RadioCall

/-! ### Digits and a thousand -/

namespace Cardinal

/-- A thousand joins the last of separate digits only if there is no other, and not zero. -/
theorem joins_units_thousand {digits : List NumberWord} {last : NumberWord}
    (areUnits : ∀ word ∈ digits ++ [last], word.isUnit) :
    joins ((digits ++ [last]).foldl add []) .thousand ↔ digits = [] ∧ last ≠ .unit 0 := by
  have isUnit : last.isUnit := areUnits last (by simp)
  have notScale := not_isScale_of_isUnit isUnit
  have isScale : NumberWord.thousand.isScale := rfl
  rw [foldl_add_nil_units areUnits, List.map_append, List.reverse_append, List.map_singleton,
    List.reverse_singleton, List.singleton_append]
  by_cases isZero : last = .unit 0
  · simp [joins, isZero, isScale]
  · rcases List.eq_nil_or_concat' digits with rfl | ⟨init, previous, rfl⟩
    · simp [joins, isZero, isScale, notScale]
    · have previousUnit : previous.isUnit := areUnits previous (by simp)
      simp [joins, isZero, isScale, isSingleUnit, isUnit, previousUnit]

/-- A thousand after digits stands on its own, unless a single digit takes it. -/
theorem divide_units_thousand {digits : List NumberWord} (areUnits : ∀ word ∈ digits, word.isUnit)
    (notAlone : ∀ digit, digits = [.unit digit] → digit.val = 0) :
    divide (digits ++ [.thousand]) = (digits.map fun word => [word]) ++ [[.thousand]] := by
  have apart : ¬joins (digits.foldl add []) .thousand := by
    rcases List.eq_nil_or_concat' digits with rfl | ⟨init, last, rfl⟩
    · exact nofun
    · rw [joins_units_thousand areUnits]
      rintro ⟨rfl, notZero⟩
      obtain ⟨digit, rfl⟩ := exists_unit_of_isUnit (areUnits last List.mem_cons_self)
      exact notZero (congrArg NumberWord.unit (Fin.ext (notAlone digit rfl)))
  have held : ((digits.foldl add []).map List.reverse).reverse = digits.map fun word => [word] :=
    divide_units areUnits
  rw [divide, List.foldl_append, List.foldl_cons, List.foldl_nil, add.eq_def, if_neg apart,
    List.map_cons, List.reverse_cons, held]
  rfl

/-- Then the digits are written as a numeral each, and the thousand as it is. -/
theorem runWords_units_thousand {digits : List NumberWord}
    (areUnits : ∀ word ∈ digits, word.isUnit)
    (notAlone : ∀ digit, digits = [.unit digit] → digit.val = 0) :
    runWords (digits ++ [.thousand]) =
      digits.map (fun word => decimal word.value) ++ [thousandWord] := by
  rw [runWords, divide_units_thousand areUnits notAlone, List.flatMap_append,
    flatMap_writtenWords_units areUnits]
  rfl

/-- A single digit other than zero is written with its thousand. -/
theorem divide_unit_thousand : ∀ digit : Fin 10, digit.val ≠ 0 →
    divide [.unit digit, .thousand] = [[.unit digit, .thousand]] ∧
      runWords [.unit digit, .thousand] = [decimal (digit.val * 1000)] := by
  decide

/-- Digits and a thousand give no number of too many digits. -/
theorem not_isTooLong_of_mem_divide_thousand {digits : List NumberWord}
    (areUnits : ∀ word ∈ digits, word.isUnit) {cardinal : Cardinal}
    (member : cardinal ∈ divide (digits ++ [.thousand])) : ¬cardinal.IsTooLong := by
  by_cases notAlone : ∀ digit, digits = [.unit digit] → digit.val = 0
  · rw [divide_units_thousand areUnits notAlone] at member
    rcases List.mem_append.mp member with inDigits | isThousand
    · obtain ⟨word, isDigit, rfl⟩ := List.mem_map.mp inDigits
      exact not_isTooLong_singleton (not_isScale_of_isUnit (areUnits word isDigit))
    · rw [List.mem_singleton.mp isThousand]
      exact fun tooLong => tooLong.1 rfl
  · push Not at notAlone
    obtain ⟨digit, rfl, notZero⟩ := notAlone
    rw [List.singleton_append, (divide_unit_thousand digit notZero).1, List.mem_singleton]
      at member
    rw [member]
    intro tooLong
    have small : ∀ digit : Fin 10, value [.unit digit, .thousand] < powerOfTen 4 := by decide
    have limit : powerOfTen 4 ≤ powerOfTen numeralLimit := powerOfTen_le_powerOfTen (by decide)
    exact absurd (Nat.le_trans limit tooLong.2) (Nat.not_le_of_lt (small digit))

end Cardinal

/-! ### Sentences that end with a run -/

theorem IsSimple.number?_of_ofText?_eq_none {token : Text} (simple : IsSimple token)
    (noWord : NumberWord.ofText? token = none) :
    ∀ fragment ∈ fragments token, fragment.number? = none := by
  refine simple.digitOrNone.resolve_left ?_
  rintro ⟨digit, rfl⟩
  rw [NumberWord.ofText?_spelling] at noWord
  cases noWord

/-- A sentence of simple tokens ends with no number word if the last token is none. -/
theorem number?_getLast?_fragments_sentence {tokens : List Text}
    (simple : ∀ token ∈ tokens, IsSimple token)
    (ends : ∀ last ∈ tokens.getLast?, NumberWord.ofText? last = none) :
    ∀ last ∈ (fragments (sentence tokens)).getLast?, last.number? = none := by
  rcases List.eq_nil_or_concat' tokens with rfl | ⟨init, token, rfl⟩
  · exact nofun
  · have isSimple := simple token (by simp)
    have noNumber := isSimple.number?_of_ofText?_eq_none (ends token (by simp))
    have fromToken : ∀ last ∈ (fragments token).getLast?, last.number? = none :=
      fun last isLast => noNumber last (List.mem_of_mem_getLast? isLast)
    by_cases isFirst : init = []
    · rw [isFirst, List.nil_append, sentence_singleton]
      exact fromToken
    · have areWords : ∀ other ∈ init, IsWord other :=
        fun other member => (simple other (List.mem_append_left _ member)).isWord
      have split := fragments_append_sentence isSimple.isWord
        (kindOf_getLast?_sentence_ne_gap areWords) []
      have nonempty : fragments token ≠ [] := by
        intro none
        have isText := flatMap_text_fragments token
        rw [none] at isText
        exact isSimple.isWord.nonempty isText.symm
      rw [sentence_append isFirst (List.cons_ne_nil _ _), split, sentence_singleton,
        List.append_cons, List.getLast?_append_of_ne_nil _ nonempty]
      exact fromToken

/-- Number words behind simple tokens are written as a run of their own, if the token before
them is no number word. -/
theorem expandNumbers_sentence_append {tokens : List Text}
    (simple : ∀ token ∈ tokens, IsSimple token)
    (ends : ∀ last ∈ tokens.getLast?, NumberWord.ofText? last = none)
    {spoken : List NumberWord} (nonempty : spoken ≠ [])
    (short : ∀ cardinal ∈ Cardinal.divide spoken, ¬cardinal.IsTooLong) :
    expandNumbers (sentence (tokens ++ spoken.map NumberWord.spelling)) =
      .ok (sentence (tokens.map heardAs ++ Cardinal.runWords spoken)) := by
  obtain ⟨source, isRun⟩ := stretchesOf_sentence_spelling nonempty
  have runWrites : expandNumbers (sentence (spoken.map NumberWord.spelling)) =
      .ok (sentence (Cardinal.runWords spoken)) := by
    refine expandNumbers_eq_ok_iff.mpr ?_
    rw [isRun]
    exact writes_cons_iff.mpr ⟨_, [], Cardinal.writtenRun_eq_ok_iff.mpr ⟨short, rfl⟩, writes_nil,
      (List.append_nil _).symm⟩
  by_cases isFirst : tokens = []
  · rw [isFirst]
    exact runWrites
  · have areWords : ∀ token ∈ tokens, IsWord token :=
      fun token member => (simple token member).isWord
    have noGap : ∀ last ∈ (sentence tokens).getLast?, ¬isBlank last := fun last isLast isGap =>
      kindOf_getLast?_sentence_ne_gap areWords last isLast (Fragment.kindOf_eq_gap_iff.mpr isGap)
    have begins : ∀ next ∈ (sentence (spoken.map NumberWord.spelling)).head?, ¬isBlank next := by
      obtain ⟨first, rest, rfl⟩ := List.exists_cons_of_ne_nil nonempty
      have isWord := (isSolid_spelling first).isWord
      intro next isNext
      rw [List.map_cons, sentence_cons, List.head?_append_of_ne_nil _ isWord.nonempty] at isNext
      rw [isWord.unbroken next (List.mem_of_mem_head? isNext)]
      exact Bool.false_ne_true
    have tokensWrite : expandNumbers (sentence tokens) = .ok (sentence (tokens.map heardAs)) :=
      expandNumbers_eq_ok_iff.mpr (writes_sentence simple)
    have isSpace : ∀ character ∈ [' '], isBlank character :=
      List.forall_mem_singleton.mpr (by decide)
    have apart := @expandNumbers_append_blanks _ [' '] _ (List.cons_ne_nil _ _) isSpace noGap
      begins (.inl (number?_getLast?_fragments_sentence simple ends))
    rw [tokensWrite, runWrites] at apart
    rw [sentence_append isFirst (by simpa using nonempty),
      sentence_append (by simpa using isFirst) (Cardinal.runWords_ne_nil nonempty)]
    exact apart

/-- Simple tokens and number words behind them are heard apart. -/
theorem tokens_sentence_append {front : List Text} (simple : ∀ token ∈ front, IsSimpleToken token)
    (ends : ∀ last ∈ front.getLast?, NumberWord.ofText? last = none)
    {spoken : List NumberWord} (nonempty : spoken ≠ [])
    (short : ∀ cardinal ∈ Cardinal.divide spoken, ¬cardinal.IsTooLong) :
    tokens (sentence (front ++ spoken.map NumberWord.spelling)) =
      .ok (front.map heardAs ++ Cardinal.runWords spoken) := by
  have settled : ∀ character ∈ sentence (front ++ spoken.map NumberWord.spelling),
      IsSettled character := by
    intro character member
    rcases mem_sentence member with rfl | ⟨word, isMember, inWord⟩
    · decide
    · rcases List.mem_append.mp isMember with inFront | inSpoken
      · exact (simple word inFront).settled character inWord
      · obtain ⟨number, _, rfl⟩ := List.mem_map.mp inSpoken
        exact isSettled_of_mem_spelling number character inWord
  have expanded := expandNumbers_sentence_append
    (fun token member => (simple token member).toIsSimple) ends nonempty short
  refine map_eq_ok_iff.mpr ⟨_, (sanitize_of_isSettled settled).trans expanded,
    words_sentence fun word member => ?_⟩
  rcases List.mem_append.mp member with inFront | inRun
  · obtain ⟨token, isToken, rfl⟩ := List.mem_map.mp inFront
    exact (simple token isToken).isWord_heardAs
  · exact (isSolid_of_mem_runWords inRun).isWord

/-- The English words for digits are heard as a numeral each. -/
theorem map_heardAs_units {units : List NumberWord} (areUnits : ∀ word ∈ units, word.isUnit) :
    (units.map NumberWord.spelling).map heardAs = units.map fun word => decimal word.value := by
  rw [List.map_map]
  refine List.map_congr_left fun word member => ?_
  obtain ⟨digit, rfl⟩ := Cardinal.exists_unit_of_isUnit (areUnits word member)
  exact heardAs_unit digit

/-! ### Digits in mixed wording -/

namespace Vocabulary

/-- The English words for digits are number words, and the others are none. -/
theorem standard_digits_ofText? : ∀ entry ∈ standard.digits,
    NumberWord.ofText? entry.1 = none ∨ NumberWord.ofText? entry.1 = some (.unit entry.2) := by
  decide +kernel

theorem head?_decimal_ne_of_not_isNumeral (number : Nat) {keyword : Text}
    (noNumeral : ¬isNumeral keyword) : [decimal number].head? ≠ some keyword := by
  intro isKeyword
  rw [← Option.some.inj isKeyword] at noNumeral
  exact noNumeral (isNumeral_decimal number)

variable {spelled : List (Text × Digit)} (listed : Utterance.AreListed standard spelled)

include listed

/-- The words for digits end with English words, if only with none, behind one that is not
English. -/
theorem exists_english_end : ∃ (front : List Text) (units : List NumberWord),
    spelled.map Prod.fst = front ++ units.map NumberWord.spelling ∧
      (∀ word ∈ units, word.isUnit) ∧
        ∀ last ∈ front.getLast?, NumberWord.ofText? last = none := by
  induction spelled using List.reverseRecOn with
  | nil => exact ⟨[], [], rfl, List.forall_mem_nil _, nofun⟩
  | append_singleton init entry ih =>
    rcases standard_digits_ofText? entry (listed entry (by simp)) with other | english
    · refine ⟨(init ++ [entry]).map Prod.fst, [], by simp, List.forall_mem_nil _, ?_⟩
      intro last isLast
      rw [List.map_append, List.map_singleton, List.getLast?_concat] at isLast
      rwa [← Option.some.inj isLast]
    · obtain ⟨front, units, split, areUnits, ends⟩ :=
        ih fun other member => listed other (List.mem_append_left _ member)
      refine ⟨front, units ++ [.unit entry.2], ?_, ?_, ends⟩
      · rw [List.map_append, split, List.map_singleton, List.map_append, List.map_singleton,
          NumberWord.eq_spelling_of_ofText? english, List.append_assoc]
      · exact List.forall_mem_append.mpr ⟨areUnits, List.forall_mem_singleton.mpr rfl⟩

theorem digitValues_of_listed :
    standard.digitValues (spelled.map Prod.fst) = spelled.map fun entry => entry.2.val := by
  have spells := standard_digit?_of_mem listed
  clear listed
  induction spelled with
  | nil => rfl
  | cons entry rest ih =>
    obtain ⟨isDigit, spellsRest⟩ := List.forall_mem_cons.mp spells
    have values := ih spellsRest
    rw [digitValues] at values ⊢
    rw [List.map_cons, List.filterMap_cons_some isDigit, List.map_cons, values, List.map_cons]

/-- Words for digits are taken as their number in front of a token that is none. -/
theorem isTaken_digitWords (nonempty : spelled ≠ []) {following : List Text}
    (ends : following.head?.all fun token => !standard.isDigitWord token) :
    (NumberPhrase.digitWords (spelled.map Prod.fst)).IsTaken standard following ∧
      (spelled.map Prod.fst).head? ≠ some angelsWord := by
  have areDigits : ∀ word ∈ spelled.map Prod.fst, standard.isDigitWord word := by
    intro word member
    obtain ⟨entry, isEntry, rfl⟩ := List.mem_map.mp member
    rw [isDigitWord, standard_digit?_of_mem listed entry isEntry]
    rfl
  refine ⟨⟨⟨by simpa using nonempty, areDigits⟩, ends, ?_⟩, fun isAngels => ?_⟩
  · rw [Option.all_eq_true]
    intro word isFirst
    have isDigit := areDigits word (List.mem_of_mem_head? isFirst)
    simpa using fun long => standard_hasPlainDigits.long word long isDigit
  · exact standard_hasPlainDigits.angels (areDigits _ (List.mem_of_mem_head? isAngels))

/-- Digit words in front of a thousand are read as thousands. -/
theorem readAltitude_thousands (nonempty : spelled ≠ []) :
    standard.readAltitude (spelled.map Prod.fst ++ [thousandWord]) =
      .found (positionalValue (spelled.map fun entry => entry.2.val) * 1000) [] := by
  obtain ⟨taken, notAngels⟩ := isTaken_digitWords listed nonempty
    (show [thousandWord].head?.all fun token => !standard.isDigitWord token by decide)
  refine readAltitude_eq_found_iff.mpr ⟨.thousands (.digitWords (spelled.map Prod.fst)),
    ⟨notAngels, taken⟩, (List.append_nil _).symm, ?_⟩
  rw [AltitudePhrase.value, NumberPhrase.value, digitValues_of_listed listed]

/-- In front of a numeral of several digits they are read as feet, and the numeral is left. -/
theorem readAltitude_before_numeral (nonempty : spelled ≠ []) {number : Nat}
    (large : 10 ≤ number) :
    standard.readAltitude (spelled.map Prod.fst ++ [decimal number]) =
      .found (positionalValue (spelled.map fun entry => entry.2.val)) [decimal number] := by
  have notDigit := not_isDigitWord_decimal large
  obtain ⟨taken, notAngels⟩ := isTaken_digitWords listed nonempty
    (show [decimal number].head?.all fun token => !standard.isDigitWord token by
      simpa using notDigit)
  have noThousand : [decimal number].head? ≠ some thousandWord :=
    head?_decimal_ne_of_not_isNumeral number (by decide)
  refine readAltitude_eq_found_iff.mpr ⟨.feet (.digitWords (spelled.map Prod.fst)),
    ⟨notAngels, taken, noThousand⟩, rfl, ?_⟩
  rw [AltitudePhrase.value, NumberPhrase.value, digitValues_of_listed listed]

omit listed in
/-- A numeral of several digits on its own is read as feet. -/
theorem readAltitude_numeral {number : Nat} (large : 10 ≤ number)
    (short : (decimal number).length ≤ numeralLimit) :
    standard.readAltitude [decimal number] = .found number [] := by
  obtain ⟨phrase, taken, isToken, isValue⟩ := @exists_isTaken_decimal number short [] (.inl large)
  have notAngels : phrase.tokens.head? ≠ some angelsWord := by
    rw [isToken]
    exact head?_decimal_ne_of_not_isNumeral number (by decide)
  exact readAltitude_eq_found_iff.mpr ⟨.feet phrase, ⟨notAngels, taken, nofun⟩,
    by rw [AltitudePhrase.tokens, isToken, List.append_nil], isValue.symm⟩

end Vocabulary

/-! ### Altitudes in thousands -/

/-- Whether a text is read as an altitude with the standard vocabulary, and nothing is left. -/
def ReadsAltitude (text : Text) (altitude : Nat) : Prop :=
  ∃ heard, sanitize text = .ok heard ∧
    ((Cursor.ofText heard).read Vocabulary.standard.readAltitude).1 = .ok (some altitude) ∧
      ((Cursor.ofText heard).read Vocabulary.standard.readAltitude).2.isExhausted

theorem readsAltitude_iff {text : Text} {altitude : Nat} :
    ReadsAltitude text altitude ↔
      Vocabulary.standard.readAltitude <$> tokens text = .ok (.found altitude []) := by
  have exhausted (heard : Text) :
      ((Cursor.ofText heard).read Vocabulary.standard.readAltitude).1 = .ok (some altitude) ∧
        ((Cursor.ofText heard).read Vocabulary.standard.readAltitude).2.isExhausted ↔
          Vocabulary.standard.readAltitude (words heard) = .found altitude [] := by
    rw [Cursor.ofText, Cursor.isExhausted_read_start_iff,
      Cursor.read_of_ahead (Cursor.ahead_start _)]
    constructor
    · rintro ⟨isFound, noRest⟩
      rw [Reading.eq_found_of_result isFound, noRest]
    · intro isFound
      rw [isFound]
      exact ⟨rfl, rfl⟩
  unfold ReadsAltitude
  rw [map_eq_ok_iff, tokens]
  simp only [exhausted, map_eq_ok_iff]
  constructor
  · rintro ⟨heard, sanitized, isFound⟩
    exact ⟨_, ⟨heard, sanitized, rfl⟩, isFound⟩
  · rintro ⟨_, ⟨heard, sanitized, rfl⟩, isFound⟩
    exact ⟨heard, sanitized, isFound⟩

/-- Whether the last of several digits takes the thousand behind it: it is said in English and
is not zero, and the one before it is not said in English. -/
def LastTakesThousand (spelled : List (Text × Digit)) : Prop :=
  ∃ others last, spelled = others ++ [last] ∧
    NumberWord.ofText? last.1 ≠ none ∧ last.2.val ≠ 0 ∧
      ∃ previous ∈ others.getLast?, NumberWord.ofText? previous.1 = none

section

variable {spelled : List (Text × Digit)} (listed : Utterance.AreListed .standard spelled)

include listed

theorem eq_spelling_of_ofText?_ne_none {entry : Text × Digit} (member : entry ∈ spelled)
    (english : NumberWord.ofText? entry.1 ≠ none) :
    entry.1 = (NumberWord.unit entry.2).spelling := by
  have isUnit := (Vocabulary.standard_digits_ofText? entry (listed entry member)).resolve_left
    english
  exact NumberWord.eq_spelling_of_ofText? isUnit

/-- A last digit that takes the thousand is heard as one numeral with it. -/
theorem tokens_of_lastTakesThousand {others : List (Text × Digit)} {last : Text × Digit}
    (split : spelled = others ++ [last]) (english : NumberWord.ofText? last.1 ≠ none)
    (notZero : last.2.val ≠ 0)
    (previous : ∃ previous ∈ others.getLast?, NumberWord.ofText? previous.1 = none) :
    tokens (sentence (spelled.map Prod.fst ++ [thousandWord])) =
      .ok ((others.map Utterance.heardEntry).map Prod.fst ++ [decimal (last.2.val * 1000)]) := by
  have isSpelling := eq_spelling_of_ofText?_ne_none listed (split ▸ by simp) english
  have othersListed : Utterance.AreListed .standard others := fun entry member =>
    listed entry (split ▸ List.mem_append_left _ member)
  have areUnits : ∀ word ∈ [NumberWord.unit last.2], word.isUnit :=
    List.forall_mem_singleton.mpr rfl
  have short : ∀ cardinal ∈ Cardinal.divide [.unit last.2, .thousand], ¬cardinal.IsTooLong :=
    fun _ => Cardinal.not_isTooLong_of_mem_divide_thousand areUnits
  have regroup : spelled.map Prod.fst ++ [thousandWord] =
      others.map Prod.fst ++ [NumberWord.unit last.2, .thousand].map NumberWord.spelling := by
    rw [split, List.map_append, List.append_assoc, List.map_singleton, isSpelling]
    rfl
  have ends : ∀ word ∈ (others.map Prod.fst).getLast?, NumberWord.ofText? word = none := by
    obtain ⟨entry, isPrevious, other⟩ := previous
    intro word isLast
    rw [List.getLast?_map, Option.mem_def.mp isPrevious] at isLast
    rwa [← Option.some.inj isLast]
  rw [regroup, tokens_sentence_append othersListed.isSimpleToken ends (List.cons_ne_nil _ _) short,
    (Cardinal.divide_unit_thousand last.2 notZero).2, Utterance.map_heardAs_fst]

/-- If one English word stands at the end of the digits, other than zero, and does not take the
thousand, no digit is before it. -/
theorem eq_singleton_of_not_lastTakesThousand {front : List Text} {digit : Fin 10}
    (split : spelled.map Prod.fst = front ++ [(NumberWord.unit digit).spelling])
    (ends : ∀ last ∈ front.getLast?, NumberWord.ofText? last = none) (notZero : digit.val ≠ 0)
    (notTaken : ¬LastTakesThousand spelled) :
    front = [] ∧ ∃ only, spelled = [only] ∧ only.2 = digit := by
  obtain ⟨init, last, isSpelled, isFront, isLast⟩ := List.map_eq_append_iff.mp split
  obtain ⟨last, rfl, isSpelling⟩ := List.map_eq_singleton_iff.mp isLast
  subst isSpelled
  have english : NumberWord.ofText? last.1 = some (.unit digit) := by
    rw [isSpelling, NumberWord.ofText?_spelling]
  have sameDigit : last.2 = digit := by
    have isUnit := (Vocabulary.standard_digits_ofText? last (listed last (by simp))).resolve_left
      (english ▸ Option.some_ne_none _)
    exact NumberWord.unit.inj (Option.some.inj (isUnit.symm.trans english))
  have isFirst : init = [] := by
    by_contra several
    have inFront : init.getLast several ∈ init.getLast? := List.getLast_mem_getLast? several
    refine notTaken ⟨init, last, rfl, english ▸ Option.some_ne_none _, sameDigit ▸ notZero, _,
      inFront, ends _ ?_⟩
    rw [← isFront, List.getLast?_map, Option.mem_def.mp inFront]
    rfl
  subst isFirst
  exact ⟨isFront.symm, last, rfl, sameDigit⟩

/-- A digit that is said alone in English, other than zero, is heard as one numeral with the
thousand; otherwise a thousand that the last digit does not take stands behind the digits. -/
theorem tokens_of_not_lastTakesThousand (notTaken : ¬LastTakesThousand spelled) :
    (∃ only, spelled = [only] ∧ only.2.val ≠ 0 ∧
        tokens (sentence (spelled.map Prod.fst ++ [thousandWord])) =
          .ok [decimal (only.2.val * 1000)]) ∨
      tokens (sentence (spelled.map Prod.fst ++ [thousandWord])) =
        .ok ((spelled.map Utterance.heardEntry).map Prod.fst ++ [thousandWord]) := by
  -- The thousand is in one run with the English words at the end, whatever stands before them.
  obtain ⟨front, units, split, areUnits, ends⟩ := Vocabulary.exists_english_end listed
  have simple : ∀ token ∈ front, IsSimpleToken token := fun token member =>
    listed.isSimpleToken token (split ▸ List.mem_append_left _ member)
  have heard := tokens_sentence_append simple ends (by simp : units ++ [NumberWord.thousand] ≠ [])
    fun _ => Cardinal.not_isTooLong_of_mem_divide_thousand areUnits
  have regroup : spelled.map Prod.fst ++ [thousandWord] =
      front ++ (units ++ [NumberWord.thousand]).map NumberWord.spelling := by
    rw [split, List.map_append, List.append_assoc]
    rfl
  rw [← regroup] at heard
  by_cases notAlone : ∀ digit, units = [.unit digit] → digit.val = 0
  · right
    rw [heard, Cardinal.runWords_units_thousand areUnits notAlone, ← Utterance.map_heardAs_fst,
      split, List.map_append, map_heardAs_units areUnits, List.append_assoc]
  · left
    push Not at notAlone
    obtain ⟨digit, rfl, notZero⟩ := notAlone
    obtain ⟨rfl, only, rfl, isDigit⟩ :=
      eq_singleton_of_not_lastTakesThousand listed split ends notZero notTaken
    refine ⟨only, rfl, isDigit ▸ notZero, ?_⟩
    rw [heard, isDigit]
    exact congrArg Except.ok (Cardinal.divide_unit_thousand digit notZero).2

omit listed in
theorem map_heardEntry_val : (spelled.map Utterance.heardEntry).map (fun entry => entry.2.val) =
    spelled.map fun entry => entry.2.val := by
  rw [List.map_map]
  rfl

/-- If the last digit takes the thousand, the number of the other digits is read as feet, and
the numeral of the last one is left. -/
theorem readAltitude_of_lastTakesThousand (taken : LastTakesThousand spelled) :
    ∀ last ∈ spelled.getLast?,
      Vocabulary.standard.readAltitude <$>
          tokens (sentence (spelled.map Prod.fst ++ [thousandWord])) =
        .ok (.found (positionalValue (spelled.dropLast.map fun entry => entry.2.val))
          [decimal (last.2.val * 1000)]) := by
  obtain ⟨others, last, split, english, notZero, previous⟩ := taken
  intro final isFinal
  have some : others.map Utterance.heardEntry ≠ [] := by
    obtain ⟨entry, isPrevious, _⟩ := previous
    simpa using List.ne_nil_of_mem (List.mem_of_mem_getLast? isPrevious)
  have othersListed : Utterance.AreListed .standard others := fun entry member =>
    listed entry (split ▸ List.mem_append_left _ member)
  rw [tokens_of_lastTakesThousand listed split english notZero previous]
  rw [split, List.getLast?_concat] at isFinal
  rw [← Option.some.inj isFinal, split, List.dropLast_concat, ← map_heardEntry_val]
  exact congrArg Except.ok (Vocabulary.readAltitude_before_numeral
    othersListed.map_heardEntry some (by omega))

/-- If it does not, the altitude is read as it was meant. -/
theorem readAltitude_of_not_lastTakesThousand (nonempty : spelled ≠ [])
    (notTaken : ¬LastTakesThousand spelled) :
    Vocabulary.standard.readAltitude <$>
        tokens (sentence (spelled.map Prod.fst ++ [thousandWord])) =
      .ok (.found (positionalValue (spelled.map fun entry => entry.2.val) * 1000) []) := by
  rcases tokens_of_not_lastTakesThousand listed notTaken with
    ⟨only, rfl, notZero, heard⟩ | heard
  · have small : only.2.val * 1000 < 10 ^ 4 := by omega
    have short : (decimal (only.2.val * 1000)).length ≤ numeralLimit :=
      Nat.le_trans ((length_decimal_le_iff (by decide)).mpr small) (by decide)
    have value : positionalValue [only.2.val] = only.2.val := Nat.zero_add _
    rw [heard, List.map_singleton, value]
    exact congrArg Except.ok (Vocabulary.readAltitude_numeral (by omega) short)
  · rw [heard, ← map_heardEntry_val]
    exact congrArg Except.ok (Vocabulary.readAltitude_thousands listed.map_heardEntry
      (by simpa using nonempty))

/-- An altitude in thousands that is said digit by digit, in any of the words of the standard
vocabulary, is read as it was meant exactly if the last digit does not take the thousand. If
it does, the number of the other digits is read as feet, and the rest is left. -/
theorem readsAltitude_thousand (nonempty : spelled ≠ []) :
    (ReadsAltitude (sentence (spelled.map Prod.fst ++ [thousandWord]))
        (positionalValue (spelled.map fun entry => entry.2.val) * 1000) ↔
          ¬LastTakesThousand spelled) ∧
      (LastTakesThousand spelled → ∀ last ∈ spelled.getLast?,
        Vocabulary.standard.readAltitude <$>
            tokens (sentence (spelled.map Prod.fst ++ [thousandWord])) =
          .ok (.found (positionalValue (spelled.dropLast.map fun entry => entry.2.val))
            [decimal (last.2.val * 1000)])) := by
  have ofTaken := @readAltitude_of_lastTakesThousand spelled listed
  refine ⟨⟨fun reads taken => ?_, fun notTaken => ?_⟩, ofTaken⟩
  · have left := ofTaken taken _ (List.getLast_mem_getLast? nonempty)
    rw [readsAltitude_iff.mp reads, Except.ok.injEq, Reading.found_inj] at left
    cases left.2
  · exact readsAltitude_iff.mpr (readAltitude_of_not_lastTakesThousand listed nonempty notTaken)

end

/-- Three and two, the first as it is pronounced on the radio: the altitude is read as three
feet. After an English one the same two leaves the thousand to all digits. -/
theorem readsAltitude_thousand_treeTwo :
    let apart : List (Text × Digit) := [("tree".toList, 3), ("two".toList, 2)]
    let together : List (Text × Digit) := [("tree".toList, 3), ("one".toList, 1), ("two".toList, 2)]
    (apart ≠ [] ∧ Utterance.AreListed .standard apart ∧ LastTakesThousand apart ∧
        ¬ReadsAltitude "tree two thousand".toList 32000) ∧
      together ≠ [] ∧ Utterance.AreListed .standard together ∧ ¬LastTakesThousand together ∧
        ReadsAltitude "tree one two thousand".toList 312000 := by
  intro apart together
  have apartListed : Utterance.AreListed .standard apart := by
    show ∀ entry ∈ apart, entry ∈ Vocabulary.standard.digits
    decide
  have togetherListed : Utterance.AreListed .standard together := by
    show ∀ entry ∈ together, entry ∈ Vocabulary.standard.digits
    decide
  have taken : LastTakesThousand apart :=
    ⟨[("tree".toList, 3)], ("two".toList, 2), rfl, by decide, by decide, _, rfl, by decide⟩
  have notTaken : ¬LastTakesThousand together := by
    rintro ⟨others, last, split, _, _, previous, isPrevious, other⟩
    have isOthers := congrArg List.dropLast split
    rw [List.dropLast_concat] at isOthers
    subst isOthers
    obtain rfl := Option.some.inj isPrevious
    exact absurd other (by decide)
  have apartValue : positionalValue (apart.map fun entry => entry.2.val) * 1000 = 32000 := by decide
  have togetherValue : positionalValue (together.map fun entry => entry.2.val) * 1000 = 312000 := by
    decide
  have ofApart := (readsAltitude_thousand apartListed (List.cons_ne_nil _ _)).1
  have ofTogether := (readsAltitude_thousand togetherListed (List.cons_ne_nil _ _)).1
  rw [apartValue] at ofApart
  rw [togetherValue] at ofTogether
  exact ⟨⟨List.cons_ne_nil _ _, apartListed, taken, fun reads => ofApart.mp reads taken⟩,
    List.cons_ne_nil _ _, togetherListed, notTaken, ofTogether.mpr notTaken⟩

end RadioCall
