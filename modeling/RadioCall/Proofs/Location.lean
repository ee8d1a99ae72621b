/-
This file proves that locations are read as they are divided into phrases, and that this
division is the only one. Two things could go wrong: the readers take different tokens
for digits, and each goes as far as it can. A bearing ends after its third digit, and a
range of digit words ends where the next token spells no digit. If the range were cut
earlier, the altitude would begin with a digit word and its number would swallow the
rest of the run, so nothing would be left that ends an altitude.
-/

import Mathlib.Data.List.TakeWhile
import RadioCall.Proofs.Reading
import RadioCall.Vocabulary.Standard

namespace RadioCall

/-! ### Plain digit words -/

namespace Vocabulary

/-- Digit words that cannot be taken for anything else in a location: no numeral of two or
more characters is one, nor are the words around an altitude. -/
structure HasPlainDigits (vocabulary : Vocabulary) : Prop where
  long : ∀ token, isLongNumeral token → ¬vocabulary.isDigitWord token
  angels : ¬vocabulary.isDigitWord angelsWord
  thousand : ¬vocabulary.isDigitWord thousandWord

theorem mem_digits_of_digit? {vocabulary : Vocabulary} {word : Text} {digit : Digit}
    (spelled : vocabulary.digit? word = some digit) : (word, digit) ∈ vocabulary.digits := by
  obtain ⟨before, after, split, _⟩ := List.lookup_eq_some_iff.mp spelled
  rw [split]
  exact List.mem_append_right _ List.mem_cons_self

theorem standard_hasPlainDigits : standard.HasPlainDigits where
  long := by
    intro token long isDigit
    have short : ∀ entry ∈ standard.digits, ¬isLongNumeral entry.1 := by decide
    obtain ⟨digit, spelled⟩ := Option.isSome_iff_exists.mp isDigit
    exact short _ (mem_digits_of_digit? spelled) long
  angels := by decide
  thousand := by decide

end Vocabulary

variable {vocabulary : Vocabulary}

/-! ### Numbers -/

namespace NumberPhrase

theorem IsSpoken.tokens_ne_nil {phrase : NumberPhrase} (spoken : phrase.IsSpoken vocabulary) :
    phrase.tokens ≠ [] := by
  cases phrase with
  | numeral token => exact List.cons_ne_nil _ _
  | digitWords words => exact spoken.1

/-- The tokens of a number are long numerals and digit words only. -/
theorem IsSpoken.mem_tokens {phrase : NumberPhrase} (spoken : phrase.IsSpoken vocabulary)
    {token : Text} (member : token ∈ phrase.tokens) :
    isLongNumeral token ∨ vocabulary.isDigitWord token := by
  cases phrase with
  | numeral numeral =>
    rw [tokens, List.mem_singleton] at member
    exact .inl (member ▸ spoken)
  | digitWords words => exact .inr (spoken.2 token member)

/-- No keyword of an altitude is a token of a number. -/
theorem IsSpoken.notMem_tokens {phrase : NumberPhrase} (spoken : phrase.IsSpoken vocabulary)
    {keyword : Text} (short : ¬isLongNumeral keyword) (other : ¬vocabulary.isDigitWord keyword) :
    keyword ∉ phrase.tokens := fun member =>
  (spoken.mem_tokens member).elim short other

/-- A number that begins with a digit word holds digit words only. -/
theorem IsSpoken.all_isDigitWord (plain : vocabulary.HasPlainDigits) {phrase : NumberPhrase}
    (spoken : phrase.IsSpoken vocabulary) {rest : List Text}
    (begins : (phrase.tokens ++ rest).head?.any vocabulary.isDigitWord) :
    ∀ token ∈ phrase.tokens, vocabulary.isDigitWord token := by
  cases phrase with
  | numeral token => exact absurd begins (plain.long token spoken)
  | digitWords words => exact spoken.2

/-- Two numbers of the same tokens are the same number. -/
theorem eq_of_tokens_eq (plain : vocabulary.HasPlainDigits) {first second : NumberPhrase}
    (firstSpoken : first.IsSpoken vocabulary) (secondSpoken : second.IsSpoken vocabulary)
    (same : first.tokens = second.tokens) : first = second := by
  cases first with
  | numeral token =>
    cases second with
    | numeral other => rw [List.singleton_inj.mp same]
    | digitWords words =>
      have member : token ∈ words := by
        rw [tokens, tokens] at same
        rw [← same]
        exact List.mem_singleton_self token
      exact absurd (secondSpoken.2 token member) (plain.long token firstSpoken)
  | digitWords words =>
    cases second with
    | numeral token =>
      have member : token ∈ words := by
        rw [tokens, tokens] at same
        rw [same]
        exact List.mem_singleton_self token
      exact absurd (firstSpoken.2 token member) (plain.long token secondSpoken)
    | digitWords others => rw [show words = others from same]

/-- A number is determined by the tokens from its start on if it ends before those that
follow it. -/
theorem eq_of_append_eq (plain : vocabulary.HasPlainDigits) {first second : NumberPhrase}
    {rest others : List Text} (firstSpoken : first.IsSpoken vocabulary)
    (secondSpoken : second.IsSpoken vocabulary) (firstEnds : first.EndsBefore vocabulary rest)
    (secondEnds : second.EndsBefore vocabulary others)
    (same : first.tokens ++ rest = second.tokens ++ others) : first = second ∧ rest = others := by
  have sameTokens : first.tokens = second.tokens := by
    cases first with
    | numeral token =>
      cases second with
      | numeral other => exact congrArg (fun token => [token]) (List.cons_eq_cons.mp same).1
      | digitWords words =>
        obtain ⟨word, words, rfl⟩ := List.exists_cons_of_ne_nil secondSpoken.1
        obtain ⟨rfl, _⟩ := List.cons_eq_cons.mp same
        exact absurd (secondSpoken.2 token List.mem_cons_self) (plain.long token firstSpoken)
    | digitWords words =>
      cases second with
      | numeral token =>
        obtain ⟨word, words, rfl⟩ := List.exists_cons_of_ne_nil firstSpoken.1
        obtain ⟨rfl, _⟩ := List.cons_eq_cons.mp same
        exact absurd (firstSpoken.2 word List.mem_cons_self) (plain.long word secondSpoken)
      | digitWords others =>
        have fromFirst := (Vocabulary.takeWhile_dropWhile_append firstSpoken.2 firstEnds).1
        have fromSecond := (Vocabulary.takeWhile_dropWhile_append secondSpoken.2 secondEnds).1
        exact fromFirst.symm.trans ((congrArg _ same).trans fromSecond)
  refine ⟨eq_of_tokens_eq plain firstSpoken secondSpoken sameTokens, ?_⟩
  rw [sameTokens] at same
  exact List.append_cancel_left same

/-- A spoken number is taken where it ends, unless it is a numeral that is too long. -/
theorem isTaken_iff (plain : vocabulary.HasPlainDigits) {phrase : NumberPhrase}
    {following : List Text}
    (short : ∀ token ∈ phrase.tokens, isNumeral token → token.length ≤ numeralLimit) :
    phrase.IsTaken vocabulary following ↔
      phrase.IsSpoken vocabulary ∧ phrase.EndsBefore vocabulary following := by
  cases phrase with
  | numeral token =>
    constructor
    · exact fun taken => ⟨taken.1, trivial⟩
    · rintro ⟨spoken, _⟩
      exact ⟨spoken, short token List.mem_cons_self (Bool.and_eq_true_iff.mp spoken).1⟩
  | digitWords words =>
    constructor
    · exact fun taken => ⟨taken.1, taken.2.1⟩
    · rintro ⟨spoken, ends⟩
      refine ⟨spoken, ends, ?_⟩
      obtain ⟨first, others, rfl⟩ := List.exists_cons_of_ne_nil spoken.1
      have notLong : ¬isLongNumeral first := fun long =>
        plain.long first long (spoken.2 first List.mem_cons_self)
      simpa using notLong

end NumberPhrase

/-! ### Altitudes -/

namespace AltitudePhrase

theorem angelsWord_notMem (plain : vocabulary.HasPlainDigits) {number : NumberPhrase}
    (spoken : number.IsSpoken vocabulary) : angelsWord ∉ number.tokens :=
  spoken.notMem_tokens (by decide) plain.angels

theorem thousandWord_notMem (plain : vocabulary.HasPlainDigits) {number : NumberPhrase}
    (spoken : number.IsSpoken vocabulary) : thousandWord ∉ number.tokens :=
  spoken.notMem_tokens (by decide) plain.thousand

theorem head?_ne_angelsWord (plain : vocabulary.HasPlainDigits) {number : NumberPhrase}
    (spoken : number.IsSpoken vocabulary) : number.tokens.head? ≠ some angelsWord := fun inFront =>
  angelsWord_notMem plain spoken (List.mem_of_mem_head? inFront)

theorem angels_tokens_ne (plain : vocabulary.HasPlainDigits) {first second : NumberPhrase}
    (spoken : second.IsSpoken vocabulary) :
    (angels first).tokens ≠ (feet second).tokens ∧
      (angels first).tokens ≠ (thousands second).tokens := by
  have notMem := angelsWord_notMem plain spoken
  constructor
  · intro same
    rw [tokens, tokens] at same
    exact notMem (same ▸ List.mem_cons_self)
  · intro same
    rw [tokens, tokens] at same
    have member : angelsWord ∈ second.tokens ++ [thousandWord] := same ▸ List.mem_cons_self
    rw [List.mem_append, List.mem_singleton] at member
    exact member.elim notMem (by decide)

theorem feet_tokens_ne (plain : vocabulary.HasPlainDigits) {first second : NumberPhrase}
    (spoken : first.IsSpoken vocabulary) : (feet first).tokens ≠ (thousands second).tokens := by
  intro same
  rw [tokens, tokens] at same
  exact thousandWord_notMem plain spoken
    (same ▸ List.mem_append_right _ (List.mem_singleton_self thousandWord))

/-- Two altitudes of the same tokens are the same altitude. -/
theorem eq_of_tokens_eq (plain : vocabulary.HasPlainDigits) {first second : AltitudePhrase}
    (firstSpoken : first.number.IsSpoken vocabulary)
    (secondSpoken : second.number.IsSpoken vocabulary)
    (same : first.tokens = second.tokens) : first = second := by
  cases first with
  | angels number =>
    cases second with
    | angels other =>
      exact congrArg angels
        (NumberPhrase.eq_of_tokens_eq plain firstSpoken secondSpoken (List.cons_eq_cons.mp same).2)
    | feet other => exact absurd same (angels_tokens_ne plain secondSpoken).1
    | thousands other => exact absurd same (angels_tokens_ne plain secondSpoken).2
  | feet number =>
    cases second with
    | angels other => exact absurd same.symm (angels_tokens_ne plain firstSpoken).1
    | feet other =>
      exact congrArg feet (NumberPhrase.eq_of_tokens_eq plain firstSpoken secondSpoken same)
    | thousands other => exact absurd same (feet_tokens_ne plain firstSpoken)
  | thousands number =>
    cases second with
    | angels other => exact absurd same.symm (angels_tokens_ne plain firstSpoken).2
    | feet other => exact absurd same.symm (feet_tokens_ne plain secondSpoken)
    | thousands other =>
      exact congrArg thousands
        (NumberPhrase.eq_of_tokens_eq plain firstSpoken secondSpoken
          (List.append_cancel_right same))

/-- An altitude is more than the word after its number. -/
theorem tokens_ne_nil_and_ne_thousand (plain : vocabulary.HasPlainDigits) {phrase : AltitudePhrase}
    (spoken : phrase.number.IsSpoken vocabulary) :
    phrase.tokens ≠ [] ∧ phrase.tokens ≠ [thousandWord] := by
  cases phrase with
  | angels number =>
    exact ⟨List.cons_ne_nil _ _, fun same =>
      absurd (List.cons_eq_cons.mp same).1 (by decide)⟩
  | feet number =>
    refine ⟨spoken.tokens_ne_nil, fun same => thousandWord_notMem plain spoken ?_⟩
    show thousandWord ∈ (feet number).tokens
    rw [same]
    exact List.mem_singleton_self thousandWord
  | thousands number =>
    refine ⟨List.append_ne_nil_of_right_ne_nil _ (List.cons_ne_nil _ _), fun same => ?_⟩
    exact spoken.tokens_ne_nil (List.append_eq_singleton_iff.mp same |>.elim (fun left => left.1)
      fun right => absurd right.2 (List.cons_ne_nil _ _))

/-- Of an altitude that begins with a digit word, digit words leave nothing but the word
after its number. -/
theorem dropWhile_tokens (plain : vocabulary.HasPlainDigits) {phrase : AltitudePhrase}
    (spoken : phrase.number.IsSpoken vocabulary)
    (begins : phrase.tokens.head?.any vocabulary.isDigitWord) :
    phrase.tokens.dropWhile vocabulary.isDigitWord = [] ∨
      phrase.tokens.dropWhile vocabulary.isDigitWord = [thousandWord] := by
  cases phrase with
  | angels number => exact absurd begins plain.angels
  | feet number =>
    rw [tokens] at begins
    rw [← List.append_nil number.tokens] at begins
    exact .inl (List.dropWhile_eq_nil_iff.mpr (spoken.all_isDigitWord plain begins))
  | thousands number =>
    have digitWords : ∀ token ∈ number.tokens, vocabulary.isDigitWord token :=
      spoken.all_isDigitWord plain begins
    rw [tokens, List.dropWhile_append_of_pos digitWords, List.dropWhile_cons_of_neg plain.thousand]
    exact .inr rfl

/-- A spoken altitude at the end is taken, unless its number is too long. -/
theorem isTaken_nil_iff (plain : vocabulary.HasPlainDigits) {phrase : AltitudePhrase}
    (short : ∀ token ∈ phrase.tokens, isNumeral token → token.length ≤ numeralLimit) :
    phrase.IsTaken vocabulary [] ↔ phrase.number.IsSpoken vocabulary := by
  have endsBefore (number : NumberPhrase) (following : List Text)
      (other : following.head?.all fun token => !vocabulary.isDigitWord token) :
      number.EndsBefore vocabulary following := by
    cases number with
    | numeral token => trivial
    | digitWords words => exact other
  cases phrase with
  | angels number =>
    rw [IsTaken, NumberPhrase.isTaken_iff plain fun token member =>
      short token (List.mem_cons_of_mem _ member)]
    exact and_iff_left (endsBefore number [] rfl)
  | feet number =>
    rw [IsTaken, NumberPhrase.isTaken_iff plain short]
    constructor
    · exact fun taken => taken.2.1.1
    · exact fun spoken =>
        ⟨head?_ne_angelsWord plain spoken, ⟨spoken, endsBefore number [] rfl⟩, by simp⟩
  | thousands number =>
    have ends := endsBefore number [thousandWord] (by simpa using plain.thousand)
    rw [IsTaken, NumberPhrase.isTaken_iff plain fun token member =>
      short token (List.mem_append_left _ member)]
    constructor
    · exact fun taken => taken.2.1
    · exact fun spoken => ⟨head?_ne_angelsWord plain spoken, spoken, ends⟩

end AltitudePhrase

/-! ### Locations -/

namespace BraPhrase

/-- A bearing in front of tokens is determined by them. -/
theorem bearing_eq_of_divides {first second : BraPhrase} {tokens : List Text}
    (firstDivides : first.Divides vocabulary tokens)
    (secondDivides : second.Divides vocabulary tokens) :
    first.bearing = second.bearing ∧
      first.range.tokens ++ first.altitude.tokens =
        second.range.tokens ++ second.altitude.tokens := by
  have readFirst := Vocabulary.readBearing_eq_found_iff.mpr
    ⟨first.bearing, _, firstDivides.inOrder.symm, firstDivides.bearing, rfl⟩
  have readSecond := Vocabulary.readBearing_eq_found_iff.mpr
    ⟨second.bearing, _, secondDivides.inOrder.symm, secondDivides.bearing, rfl⟩
  have sameRest := (Reading.found_inj.mp (readFirst.symm.trans readSecond)).2
  have sameTokens := firstDivides.inOrder.trans secondDivides.inOrder.symm
  rw [BraPhrase.tokens, BraPhrase.tokens, sameRest] at sameTokens
  exact ⟨List.append_cancel_right sameTokens, sameRest⟩

/-- Where one division ends its range at the altitude, every division does. -/
theorem HasWholeRange.of_divides (plain : vocabulary.HasPlainDigits) {first second : BraPhrase}
    {tokens : List Text} (firstDivides : first.Divides vocabulary tokens)
    (secondDivides : second.Divides vocabulary tokens) (whole : first.HasWholeRange vocabulary) :
    second.HasWholeRange vocabulary := by
  obtain ⟨_, same⟩ := bearing_eq_of_divides firstDivides secondDivides
  obtain ⟨bearing, range, altitude⟩ := first
  obtain ⟨otherBearing, otherRange, otherAltitude⟩ := second
  simp only [HasWholeRange] at whole same ⊢
  cases otherRange with
  | numeral token => trivial
  | digitWords words =>
    by_contra cut
    have begins : otherAltitude.tokens.head?.any vocabulary.isDigitWord := by
      simpa [NumberPhrase.EndsBefore, Option.all_eq_true, Option.any_eq_true] using cut
    cases range with
    | numeral token =>
      obtain ⟨word, others, rfl⟩ := List.exists_cons_of_ne_nil secondDivides.range.1
      obtain ⟨rfl, _⟩ := List.cons_eq_cons.mp same
      exact plain.long token firstDivides.range (secondDivides.range.2 token List.mem_cons_self)
    | digitWords others =>
      -- Past all digit words stands the altitude of the first division, and of the second
      -- at most the word after its number.
      have afterFirst := (Vocabulary.takeWhile_dropWhile_append firstDivides.range.2 whole).2
      have afterSecond : (words ++ otherAltitude.tokens).dropWhile vocabulary.isDigitWord =
          otherAltitude.tokens.dropWhile vocabulary.isDigitWord :=
        List.dropWhile_append_of_pos secondDivides.range.2
      have left : altitude.tokens = otherAltitude.tokens.dropWhile vocabulary.isDigitWord := by
        rw [← afterFirst, ← afterSecond,
          ← show others ++ altitude.tokens = words ++ otherAltitude.tokens from same]
      obtain ⟨notNil, notThousand⟩ :=
        AltitudePhrase.tokens_ne_nil_and_ne_thousand plain firstDivides.altitude
      rcases AltitudePhrase.dropWhile_tokens plain secondDivides.altitude begins with none | one
      · exact notNil (left.trans none)
      · exact notThousand (left.trans one)

/-- A division whose range ends at the altitude is the only division. -/
theorem eq_of_divides (plain : vocabulary.HasPlainDigits) {first second : BraPhrase}
    {tokens : List Text} (firstDivides : first.Divides vocabulary tokens)
    (secondDivides : second.Divides vocabulary tokens) (whole : first.HasWholeRange vocabulary) :
    second = first := by
  obtain ⟨sameBearing, same⟩ := bearing_eq_of_divides firstDivides secondDivides
  have otherWhole := whole.of_divides plain firstDivides secondDivides
  obtain ⟨sameRange, sameTokens⟩ := NumberPhrase.eq_of_append_eq plain firstDivides.range
    secondDivides.range whole otherWhole same
  have sameAltitude := AltitudePhrase.eq_of_tokens_eq plain firstDivides.altitude
    secondDivides.altitude sameTokens
  obtain ⟨bearing, range, altitude⟩ := first
  obtain ⟨otherBearing, otherRange, otherAltitude⟩ := second
  simp only at sameBearing sameRange sameAltitude
  rw [sameBearing, sameRange, sameAltitude]

/-- Reading takes a division as its range ends at the altitude, unless a numeral is too
long. -/
theorem isTaken_iff_divides (plain : vocabulary.HasPlainDigits) {phrase : BraPhrase}
    (short : ∀ token ∈ phrase.tokens, isNumeral token → token.length ≤ numeralLimit) :
    phrase.IsTaken vocabulary ↔
      phrase.Divides vocabulary phrase.tokens ∧ phrase.HasWholeRange vocabulary := by
  have rangeIff : phrase.range.IsTaken vocabulary phrase.altitude.tokens ↔
      phrase.range.IsSpoken vocabulary ∧ phrase.HasWholeRange vocabulary :=
    NumberPhrase.isTaken_iff plain fun token member =>
      short token (List.mem_append_right _ (List.mem_append_left _ member))
  have altitudeIff : phrase.altitude.IsTaken vocabulary [] ↔
      phrase.altitude.number.IsSpoken vocabulary :=
    AltitudePhrase.isTaken_nil_iff plain fun token member =>
      short token (List.mem_append_right _ (List.mem_append_right _ member))
  constructor
  · intro taken
    obtain ⟨spoken, whole⟩ := rangeIff.mp taken.range
    exact ⟨⟨rfl, taken.bearing, spoken, altitudeIff.mp taken.altitude⟩, whole⟩
  · rintro ⟨divides, whole⟩
    exact ⟨divides.bearing, rangeIff.mpr ⟨divides.range, whole⟩, altitudeIff.mpr divides.altitude⟩

end BraPhrase

namespace Vocabulary

/-- Reading a location cannot fault on tokens whose numerals are all within the limit. -/
theorem not_braTooLong {tokens : List Text}
    (short : ∀ token ∈ tokens, isNumeral token → token.length ≤ numeralLimit) (digits : Nat) :
    ¬BraTooLong vocabulary digits tokens := by
  have within {numbers : List Text} (suffix : numbers <:+ tokens) :
      ¬NumberTooLong digits numbers := by
    rintro ⟨token, rest, rfl, isNumeral, rfl, tooLong⟩
    exact absurd (short token (suffix.mem List.mem_cons_self) isNumeral) (Nat.not_le_of_lt tooLong)
  rintro ⟨bearing, degrees, rest, rfl, _, tooLong | ⟨range, following, rfl, _, tooLong⟩⟩
  · exact within (List.suffix_append _ _) tooLong
  · have suffix : following <:+ bearing ++ (range.tokens ++ following) :=
      (List.suffix_append _ _).trans (List.suffix_append _ _)
    rcases tooLong with tooLong | ⟨after, rfl, tooLong⟩
    · exact within suffix tooLong
    · exact within ((List.suffix_cons _ _).trans suffix) tooLong

/-- Locations are read soundly, completely and without ambiguity in the standard
vocabulary. Reading gives a location exactly if the tokens are divided into one so that
the range ends at the altitude, and then they are divided in no other way. -/
theorem readBra_standard_iff_divides (tokens : List Text)
    (short : ∀ token ∈ tokens, isNumeral token → token.length ≤ numeralLimit) :
    (∃ found, (standard.readBra tokens).result = .ok found) ∧
      ∀ bra,
        ((standard.readBra tokens).result = .ok (some bra) ↔
          ∃ phrase : BraPhrase, phrase.Divides standard tokens ∧ phrase.HasWholeRange standard ∧
            phrase.value standard = bra) ∧
        ((standard.readBra tokens).result = .ok (some bra) →
          ∃ phrase : BraPhrase, phrase.Divides standard tokens ∧ phrase.HasWholeRange standard ∧
            phrase.value standard = bra ∧
              ∀ other : BraPhrase, other.Divides standard tokens → other = phrase) := by
  have isRead (bra : Bra) : (standard.readBra tokens).result = .ok (some bra) ↔
      ∃ phrase : BraPhrase, phrase.Divides standard tokens ∧ phrase.HasWholeRange standard ∧
        phrase.value standard = bra := by
    rw [readBra_result_eq_some_iff]
    constructor
    · rintro ⟨phrase, taken, rfl, rfl⟩
      obtain ⟨divides, whole⟩ :=
        (BraPhrase.isTaken_iff_divides standard_hasPlainDigits short).mp taken
      exact ⟨phrase, divides, whole, rfl⟩
    · rintro ⟨phrase, divides, whole, rfl⟩
      obtain rfl := divides.inOrder
      exact ⟨phrase, (BraPhrase.isTaken_iff_divides standard_hasPlainDigits short).mpr
        ⟨divides, whole⟩, rfl, rfl⟩
  refine ⟨?_, fun bra => ⟨isRead bra, fun isFound => ?_⟩⟩
  · cases result : (standard.readBra tokens).result with
    | ok found => exact ⟨found, rfl⟩
    | error fault =>
      obtain ⟨digits, tooLong, _⟩ := readBra_result_eq_error_iff.mp result
      exact absurd tooLong (not_braTooLong short digits)
  · obtain ⟨phrase, divides, whole, rfl⟩ := (isRead bra).mp isFound
    exact ⟨phrase, divides, whole, rfl, fun other otherDivides =>
      BraPhrase.eq_of_divides standard_hasPlainDigits divides otherDivides whole⟩

/-- A bearing in glued and single digits, a range of digit words and an altitude after
angels are read, and divided in one way only. -/
theorem readBra_standard_mixed_digits :
    (∀ token ∈ ["27", "zero", "tree", "6", "angels", "25"].map String.toList,
        isNumeral token → token.length ≤ numeralLimit) ∧
      (standard.readBra (["27", "zero", "tree", "6", "angels", "25"].map String.toList)).result =
          .ok (some ⟨270, 36, 25000⟩) ∧
        ∃ phrase : BraPhrase,
          phrase.Divides standard (["27", "zero", "tree", "6", "angels", "25"].map String.toList) ∧
            phrase.HasWholeRange standard ∧ phrase.value standard = ⟨270, 36, 25000⟩ ∧
              ∀ other : BraPhrase, other.Divides standard
                  (["27", "zero", "tree", "6", "angels", "25"].map String.toList) →
                    other = phrase :=
  have short : ∀ token ∈ ["27", "zero", "tree", "6", "angels", "25"].map String.toList,
      isNumeral token → token.length ≤ numeralLimit := by decide
  have isFound : (standard.readBra
      (["27", "zero", "tree", "6", "angels", "25"].map String.toList)).result =
        .ok (some ⟨270, 36, 25000⟩) := by rfl
  ⟨short, isFound, ((readBra_standard_iff_divides _ short).2 _).2 isFound⟩

/-- A run of digit words that could be cut anywhere is all range, and no altitude is left. -/
example : (standard.readBra (["270", "2", "6"].map String.toList)).result = .ok none := by rfl

end Vocabulary

end RadioCall
