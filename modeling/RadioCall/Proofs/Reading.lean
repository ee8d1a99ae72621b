/-
This file says what each reader of a field takes from the front of a list of tokens. A
reader that finds its field has taken the tokens of a phrase of it, the rest is what
follows the phrase, and the value is that of the phrase. Numbers are read as far as they
go, so a phrase of digit words is taken only where no digit word follows. The only fault
is a numeral with too many digits where a number is due.
-/

import RadioCall.Proofs.Phrase
import RadioCall.Proofs.Text.Words

namespace RadioCall

/-! ### Readings one after the other -/

namespace Reading

variable {α β : Type}

@[simp]
theorem found_result (value : α) (rest : List Text) :
    (found value rest).result = .ok (some value) :=
  rfl

@[simp]
theorem found_rest (value : α) (rest : List Text) : (found value rest).rest = rest := rfl

@[simp]
theorem missing_result (rest : List Text) : (missing rest : Reading α).result = .ok none := rfl

@[simp]
theorem found_inj {first second : α} {rest others : List Text} :
    found first rest = found second others ↔ first = second ∧ rest = others := by
  simp only [found, mk.injEq, Except.ok.injEq, Option.some.injEq]

@[simp]
theorem missing_ne_found (value : α) (rest others : List Text) :
    missing rest ≠ found value others := by
  simp [missing, found]

@[simp]
theorem fault_ne_found (fault : Fault) (value : α) (rest others : List Text) :
    (⟨.error fault, rest⟩ : Reading α) ≠ found value others := by
  simp [found]

theorem eq_found_of_result {reading : Reading α} {value : α}
    (isFound : reading.result = .ok (some value)) : reading = found value reading.rest := by
  cases reading
  simp only at isFound
  simp only [isFound, found]

@[simp]
theorem andThen_found (value : α) (rest : List Text) (next : α → List Text → Reading β) :
    (found value rest).andThen next = next value rest := rfl

/-- Reading on finds a field exactly if both readings find theirs. -/
theorem andThen_eq_found_iff {reading : Reading α} {next : α → List Text → Reading β} {value : β}
    {rest : List Text} :
    reading.andThen next = found value rest ↔
      ∃ first others, reading = found first others ∧ next first others = found value rest := by
  obtain ⟨result, others⟩ := reading
  constructor
  · intro isFound
    match result with
    | .ok (some first) => exact ⟨first, others, rfl, isFound⟩
    | .ok none => exact absurd isFound (missing_ne_found _ _ _)
    | .error fault => exact absurd isFound (fault_ne_found _ _ _ _)
  · rintro ⟨first, others, isFirst, isFound⟩
    rw [isFirst, andThen_found, isFound]

/-- Reading on ends with a fault exactly if the first reading does, or else the second. -/
theorem andThen_result_eq_error_iff {reading : Reading α} {next : α → List Text → Reading β}
    {fault : Fault} :
    (reading.andThen next).result = .error fault ↔
      reading.result = .error fault ∨
        ∃ first others, reading = found first others ∧
          (next first others).result = .error fault := by
  obtain ⟨result, others⟩ := reading
  match result with
  | .ok (some first) =>
    constructor
    · exact fun fails => .inr ⟨first, others, rfl, fails⟩
    · rintro (fails | ⟨value, rest, isFound, fails⟩)
      · simp at fails
      · rw [isFound]
        exact fails
  | .ok none => simp [andThen, missing, found]
  | .error _ => simp [andThen, found]

/-- Changing the value of a field that is read keeps what is left. -/
theorem map_eq_found_iff {change : α → β} {reading : Reading α} {value : β} {rest : List Text} :
    reading.map change = found value rest ↔
      ∃ first, reading = found first rest ∧ change first = value := by
  simp only [map, andThen_eq_found_iff, found_inj]
  constructor
  · rintro ⟨first, others, isFirst, changed, rfl⟩
    exact ⟨first, isFirst, changed⟩
  · rintro ⟨first, isFirst, changed⟩
    exact ⟨first, rest, isFirst, changed, rfl⟩

theorem map_result_eq_error_iff {change : α → β} {reading : Reading α} {fault : Fault} :
    (reading.map change).result = .error fault ↔ reading.result = .error fault := by
  simp [map, andThen_result_eq_error_iff]

end Reading

/-! ### Keywords -/

theorem readKeyword_cons_self (keyword : Text) (rest : List Text) :
    readKeyword keyword (keyword :: rest) = (true, rest) := by
  rw [readKeyword, if_pos rfl]

/-- Without the keyword in front nothing is taken. -/
theorem readKeyword_of_head?_ne {keyword : Text} {tokens : List Text}
    (other : tokens.head? ≠ some keyword) : readKeyword keyword tokens = (false, tokens) := by
  cases tokens with
  | nil => rfl
  | cons token rest => rw [readKeyword, if_neg fun same => other (by rw [List.head?_cons, same])]

/-- Either the keyword stands in front and is taken, or nothing is. -/
theorem readKeyword_cases (keyword : Text) (tokens : List Text) :
    (∃ rest, tokens = keyword :: rest ∧ readKeyword keyword tokens = (true, rest)) ∨
      (tokens.head? ≠ some keyword ∧ readKeyword keyword tokens = (false, tokens)) := by
  by_cases inFront : tokens.head? = some keyword
  · obtain ⟨rest, rfl⟩ := List.head?_eq_some_iff.mp inFront
    exact .inl ⟨rest, rfl, readKeyword_cons_self keyword rest⟩
  · exact .inr ⟨inFront, readKeyword_of_head?_ne inFront⟩

namespace Vocabulary

variable {vocabulary : Vocabulary}

/-! ### Bearings -/

theorem decodeDigits_ne_nil {token : Text} {digits : List Digit}
    (decoded : vocabulary.decodeDigits token = some digits) : digits ≠ [] := by
  simp only [decodeDigits] at decoded
  split at decoded
  · next complete =>
    simp only [Bool.and_eq_true, Bool.not_eq_true', List.isEmpty_eq_false_iff] at complete
    rw [← Option.some.inj decoded]
    exact complete.2
  · cases decoded

theorem spelledDigits?_cons_eq_some_iff {token : Text} {rest : List Text} {digits : List Digit} :
    vocabulary.spelledDigits? (token :: rest) = some digits ↔
      ∃ first others, vocabulary.decodeDigits token = some first ∧
        vocabulary.spelledDigits? rest = some others ∧ first ++ others = digits := by
  simp only [spelledDigits?, Option.bind_eq_bind, Option.bind_eq_some_iff, Option.some.injEq,
    exists_and_left]

/-- Tokens spell at least one digit each. -/
theorem length_le_of_spelledDigits? {tokens : List Text} {digits : List Digit}
    (spelled : vocabulary.spelledDigits? tokens = some digits) : tokens.length ≤ digits.length := by
  induction tokens generalizing digits with
  | nil => exact Nat.zero_le _
  | cons token rest ih =>
    obtain ⟨first, others, decoded, spelledRest, rfl⟩ := spelledDigits?_cons_eq_some_iff.mp spelled
    have positive := List.length_pos_iff.mpr (decodeDigits_ne_nil decoded)
    have shorter := ih spelledRest
    simp only [List.length_cons, List.length_append]
    omega

/-- Tokens that spell the digits still missing are not none. -/
theorem exists_cons_of_spelledDigits? {tokens : List Text} {digits more : List Digit}
    (spelled : vocabulary.spelledDigits? tokens = some more) (few : digits.length < 3)
    (three : (digits ++ more).length = 3) : ∃ first rest, tokens = first :: rest := by
  refine List.exists_cons_of_ne_nil fun none => ?_
  rw [none, spelledDigits?, Option.some.injEq] at spelled
  rw [← spelled, List.append_nil] at three
  exact absurd three (Nat.ne_of_lt few)

/-- Reading for a bearing ends with exactly three digits if tokens in front spell them. -/
theorem bearingDigits_eq_found_iff {digits out : List Digit} {tokens rest : List Text}
    (three : out.length = 3) :
    vocabulary.bearingDigits digits tokens = .found out rest ↔
      ∃ taken more, tokens = taken ++ rest ∧ vocabulary.spelledDigits? taken = some more ∧
        out = digits ++ more := by
  induction tokens generalizing digits with
  | nil =>
    rw [bearingDigits]
    constructor
    · intro isFound
      split at isFound
      · obtain ⟨rfl, rfl⟩ := Reading.found_inj.mp isFound
        exact ⟨[], [], rfl, rfl, (List.append_nil _).symm⟩
      · exact absurd isFound (Reading.missing_ne_found _ _ _)
    · rintro ⟨taken, more, split, spelled, rfl⟩
      obtain ⟨rfl, rfl⟩ := List.append_eq_nil_iff.mp split.symm
      rw [spelledDigits?, Option.some.injEq] at spelled
      subst spelled
      rw [List.append_nil] at three ⊢
      rw [if_pos (Nat.le_of_eq three.symm)]
  | cons token others ih =>
    rw [bearingDigits]
    by_cases enough : 3 ≤ digits.length
    · rw [if_pos enough, Reading.found_inj]
      constructor
      · rintro ⟨rfl, rfl⟩
        exact ⟨[], [], rfl, rfl, (List.append_nil _).symm⟩
      · rintro ⟨taken, more, split, spelled, rfl⟩
        -- Three digits are read already, so the tokens taken spell none and there are none.
        have none := length_le_of_spelledDigits? spelled
        rw [List.length_append] at three
        have noToken : taken = [] := List.length_eq_zero_iff.mp (by omega)
        have noDigit : more = [] := List.length_eq_zero_iff.mp (by omega)
        rw [noDigit, List.append_nil, split, noToken, List.nil_append]
        exact ⟨rfl, rfl⟩
    · rw [if_neg enough]
      cases decoded : vocabulary.decodeDigits token with
      | none =>
        simp only [Reading.missing_ne_found, false_iff]
        rintro ⟨taken, more, split, spelled, rfl⟩
        obtain ⟨first, taken, rfl⟩ :=
          exists_cons_of_spelledDigits? spelled (Nat.lt_of_not_le enough) three
        obtain ⟨rfl, _⟩ := List.cons_eq_cons.mp split
        obtain ⟨_, _, decodedFirst, _⟩ := spelledDigits?_cons_eq_some_iff.mp spelled
        rw [decoded] at decodedFirst
        cases decodedFirst
      | some first =>
        simp only [ih]
        constructor
        · rintro ⟨taken, more, rfl, spelled, rfl⟩
          exact ⟨token :: taken, first ++ more, rfl,
            spelledDigits?_cons_eq_some_iff.mpr ⟨first, more, decoded, spelled, rfl⟩,
            List.append_assoc _ _ _⟩
        · rintro ⟨taken, more, split, spelled, rfl⟩
          obtain ⟨head, taken, rfl⟩ :=
            exists_cons_of_spelledDigits? spelled (Nat.lt_of_not_le enough) three
          obtain ⟨rfl, rfl⟩ := List.cons_eq_cons.mp split
          obtain ⟨front, back, decodedHead, spelledTaken, rfl⟩ :=
            spelledDigits?_cons_eq_some_iff.mp spelled
          rw [decoded, Option.some.injEq] at decodedHead
          subst decodedHead
          exact ⟨taken, back, rfl, spelledTaken, (List.append_assoc _ _ _).symm⟩

theorem bearingDigits_result_ne_error (digits : List Digit) (tokens : List Text) (fault : Fault) :
    (vocabulary.bearingDigits digits tokens).result ≠ .error fault := by
  induction tokens generalizing digits with
  | nil => rw [bearingDigits]; split <;> simp
  | cons token rest ih =>
    rw [bearingDigits]
    split
    · simp
    · split
      · simp
      · exact ih _

/-- Three digits are a bearing if they spell at most 360 degrees. -/
theorem bearingOf?_eq_some_iff {digits : List Digit} {bearing : Nat} :
    bearingOf? digits = some bearing ↔
      digits.length = 3 ∧ positionalValue (digits.map Fin.val) ≤ 360 ∧
        bearing = positionalValue (digits.map Fin.val) % 360 := by
  match digits with
  | [] => simp [bearingOf?]
  | [_] => simp [bearingOf?]
  | [_, _] => simp [bearingOf?]
  | _ :: _ :: _ :: _ :: _ => simp [bearingOf?]
  | [hundreds, tens, units] =>
    have degrees : positionalValue ([hundreds, tens, units].map Fin.val) =
        hundreds.val * 100 + tens.val * 10 + units.val := by
      simp only [positionalValue, List.map_cons, List.map_nil, List.foldl_cons, List.foldl_nil]
      omega
    rw [degrees]
    simp only [bearingOf?, List.length_cons, List.length_nil, true_and]
    split
    · next small => simp [small, eq_comm]
    · next large => simp [large]

/-- A bearing is read exactly if tokens in front spell one. -/
theorem readBearing_eq_found_iff {tokens rest : List Text} {bearing : Nat} :
    vocabulary.readBearing tokens = .found bearing rest ↔
      ∃ taken degrees, tokens = taken ++ rest ∧ vocabulary.SpellsBearing taken degrees ∧
        bearing = degrees % 360 := by
  rw [readBearing, Reading.andThen_eq_found_iff]
  constructor
  · rintro ⟨digits, others, isFound, isBearing⟩
    split at isBearing
    · next isSome =>
      obtain ⟨rfl, rfl⟩ := Reading.found_inj.mp isBearing
      obtain ⟨three, small, rfl⟩ := bearingOf?_eq_some_iff.mp isSome
      obtain ⟨taken, more, split, spelled, rfl⟩ := (bearingDigits_eq_found_iff three).mp isFound
      exact ⟨taken, _, split, ⟨⟨_, spelled, three, rfl⟩, small⟩, rfl⟩
    · exact absurd isBearing (Reading.missing_ne_found _ _ _)
  · rintro ⟨taken, degrees, split, ⟨⟨digits, spelled, three, rfl⟩, small⟩, rfl⟩
    refine ⟨digits, rest, (bearingDigits_eq_found_iff three).mpr
      ⟨taken, digits, split, spelled, rfl⟩, ?_⟩
    rw [bearingOf?_eq_some_iff.mpr ⟨three, small, rfl⟩]

theorem readBearing_result_ne_error (tokens : List Text) (fault : Fault) :
    (vocabulary.readBearing tokens).result ≠ .error fault := by
  intro fails
  rw [readBearing, Reading.andThen_result_eq_error_iff] at fails
  rcases fails with fails | ⟨digits, others, _, fails⟩
  · exact bearingDigits_result_ne_error _ _ _ fails
  · split at fails <;> simp at fails

/-! ### Numbers -/

/-- Reading on through digit words stops at the first token that is none. -/
theorem moreDigits_eq (number : Nat) (tokens : List Text) :
    vocabulary.moreDigits number tokens =
      .found ((vocabulary.digitValues (tokens.takeWhile vocabulary.isDigitWord)).foldl
          (fun value digit => value * 10 + digit) number)
        (tokens.dropWhile vocabulary.isDigitWord) := by
  induction tokens generalizing number with
  | nil => rfl
  | cons token rest ih =>
    rw [moreDigits]
    cases spelled : vocabulary.digit? token with
    | none =>
      rw [List.takeWhile_cons_of_neg (by simp [isDigitWord, spelled]),
        List.dropWhile_cons_of_neg (by simp [isDigitWord, spelled])]
      rfl
    | some digit =>
      rw [List.takeWhile_cons_of_pos (by simp [isDigitWord, spelled]),
        List.dropWhile_cons_of_pos (by simp [isDigitWord, spelled])]
      simp only [ih, digitValues, List.filterMap_cons, spelled, List.map_cons, List.foldl_cons]

theorem readNumber_cons (token : Text) (rest : List Text) :
    vocabulary.readNumber (token :: rest) =
      if isLongNumeral token then
        match readNumeral token with
        | .ok number => .found number rest
        | .error fault => ⟨.error fault, rest⟩
      else
        match vocabulary.digit? token with
        | none => .missing rest
        | some digit => vocabulary.moreDigits digit.val rest := rfl

theorem readNumber_cons_of_isLongNumeral {token : Text} {rest : List Text}
    (long : isLongNumeral token) :
    vocabulary.readNumber (token :: rest) =
      if token.length ≤ numeralLimit then .found (numeralValue token) rest
      else ⟨.error (.numeralTooLong token.length), rest⟩ := by
  rw [readNumber_cons, if_pos long, readNumeral]
  by_cases short : token.length ≤ numeralLimit
  · rw [if_pos short, if_pos short]
  · rw [if_neg short, if_neg short]

theorem readNumber_cons_of_isDigitWord {token : Text} {rest : List Text}
    (short : ¬isLongNumeral token) (isDigit : vocabulary.isDigitWord token) :
    vocabulary.readNumber (token :: rest) =
      .found (positionalValue (vocabulary.digitValues
          (token :: rest.takeWhile vocabulary.isDigitWord)))
        (rest.dropWhile vocabulary.isDigitWord) := by
  obtain ⟨digit, spelled⟩ := Option.isSome_iff_exists.mp isDigit
  rw [readNumber_cons, if_neg short]
  simp only [spelled, moreDigits_eq, positionalValue, digitValues, List.filterMap_cons,
    List.map_cons, List.foldl_cons, Nat.zero_mul, Nat.zero_add]

theorem readNumber_cons_of_other {token : Text} {rest : List Text} (short : ¬isLongNumeral token)
    (other : ¬vocabulary.isDigitWord token) :
    vocabulary.readNumber (token :: rest) = .missing rest := by
  have unknown : vocabulary.digit? token = none := by
    simpa only [isDigitWord, Option.not_isSome_iff_eq_none] using other
  rw [readNumber_cons, if_neg short]
  simp only [unknown]

/-- Digit words in front of another token are all that is taken. -/
theorem takeWhile_dropWhile_append {words rest : List Text}
    (spelled : ∀ word ∈ words, vocabulary.isDigitWord word)
    (ends : rest.head?.all fun token => !vocabulary.isDigitWord token) :
    (words ++ rest).takeWhile vocabulary.isDigitWord = words ∧
      (words ++ rest).dropWhile vocabulary.isDigitWord = rest := by
  rw [Option.all_eq_true] at ends
  exact takeWhile_dropWhile_of_ends spelled fun token inFront => by simpa using ends token inFront

theorem head?_dropWhile_isDigitWord (tokens : List Text) :
    (tokens.dropWhile vocabulary.isDigitWord).head?.all fun token =>
      !vocabulary.isDigitWord token := by
  rw [Option.all_eq_true]
  intro token inFront
  simpa using not_of_mem_head?_dropWhile inFront

/-- A number is read exactly if a phrase of it is taken from the front. -/
theorem readNumber_eq_found_iff {tokens rest : List Text} {number : Nat} :
    vocabulary.readNumber tokens = .found number rest ↔
      ∃ phrase : NumberPhrase, phrase.IsTaken vocabulary rest ∧ tokens = phrase.tokens ++ rest ∧
        number = phrase.value vocabulary := by
  constructor
  · intro isFound
    cases tokens with
    | nil => exact absurd isFound (Reading.missing_ne_found _ _ _)
    | cons token others =>
      by_cases long : isLongNumeral token
      · rw [readNumber_cons_of_isLongNumeral long] at isFound
        split at isFound
        · next short =>
          obtain ⟨rfl, rfl⟩ := Reading.found_inj.mp isFound
          exact ⟨.numeral token, ⟨long, short⟩, rfl, rfl⟩
        · exact absurd isFound (Reading.fault_ne_found _ _ _ _)
      · by_cases isDigit : vocabulary.isDigitWord token
        · rw [readNumber_cons_of_isDigitWord long isDigit] at isFound
          obtain ⟨rfl, rfl⟩ := Reading.found_inj.mp isFound
          refine ⟨.digitWords (token :: others.takeWhile vocabulary.isDigitWord),
            ⟨⟨List.cons_ne_nil _ _, ?_⟩, head?_dropWhile_isDigitWord _, by simpa using long⟩, ?_,
              rfl⟩
          · intro word member
            rcases List.mem_cons.mp member with rfl | member
            · exact isDigit
            · exact List.mem_takeWhile_imp member
          · rw [NumberPhrase.tokens, List.cons_append, List.takeWhile_append_dropWhile]
        · rw [readNumber_cons_of_other long isDigit] at isFound
          exact absurd isFound (Reading.missing_ne_found _ _ _)
  · rintro ⟨phrase, taken, rfl, rfl⟩
    cases phrase with
    | numeral token =>
      rw [NumberPhrase.tokens, List.singleton_append, readNumber_cons_of_isLongNumeral taken.1,
        if_pos taken.2]
      rfl
    | digitWords words =>
      obtain ⟨⟨nonempty, spelled⟩, ends, short⟩ := taken
      obtain ⟨first, others, rfl⟩ := List.exists_cons_of_ne_nil nonempty
      obtain ⟨takeAll, dropAll⟩ :=
        takeWhile_dropWhile_append
          (fun word member => spelled word (List.mem_cons_of_mem _ member)) ends
      rw [NumberPhrase.tokens, List.cons_append,
        readNumber_cons_of_isDigitWord (by simpa using short) (spelled first List.mem_cons_self),
        takeAll, dropAll]
      rfl

theorem isLongNumeral_of_numeralLimit_lt {token : Text} (digits : isNumeral token)
    (tooLong : numeralLimit < token.length) : isLongNumeral token := by
  have positive : 1 < token.length := Nat.lt_trans (by decide) tooLong
  simp [isLongNumeral, digits, positive]

/-- Reading a number faults exactly in front of a numeral with too many digits. -/
theorem readNumber_result_eq_error_iff {tokens : List Text} {fault : Fault} :
    (vocabulary.readNumber tokens).result = .error fault ↔
      ∃ digits, NumberTooLong digits tokens ∧ fault = .numeralTooLong digits := by
  cases tokens with
  | nil => simp [readNumber, NumberTooLong]
  | cons token rest =>
    by_cases long : isLongNumeral token
    · rw [readNumber_cons_of_isLongNumeral long]
      have digits : isNumeral token := (Bool.and_eq_true_iff.mp long).1
      split
      · next short =>
        simp only [Reading.found_result, reduceCtorEq, false_iff]
        rintro ⟨_, ⟨_, _, split, _, rfl, tooLong⟩, _⟩
        obtain ⟨rfl, rfl⟩ := List.cons_eq_cons.mp split
        omega
      · next tooLong =>
        rw [Except.error.injEq]
        constructor
        · rintro rfl
          exact ⟨_, ⟨token, rest, rfl, digits, rfl, Nat.lt_of_not_le tooLong⟩, rfl⟩
        · rintro ⟨_, ⟨_, _, split, _, rfl, _⟩, rfl⟩
          obtain ⟨rfl, rfl⟩ := List.cons_eq_cons.mp split
          rfl
    · have noFault : (vocabulary.readNumber (token :: rest)).result ≠ .error fault := by
        by_cases isDigit : vocabulary.isDigitWord token
        · simp [readNumber_cons_of_isDigitWord long isDigit]
        · simp [readNumber_cons_of_other long isDigit]
      constructor
      · exact fun fails => absurd fails noFault
      · rintro ⟨_, ⟨_, _, split, digits, rfl, tooLong⟩, _⟩
        obtain ⟨rfl, rfl⟩ := List.cons_eq_cons.mp split
        exact absurd (isLongNumeral_of_numeralLimit_lt digits tooLong) long

/-! ### Altitudes -/

theorem readAltitude_angels (rest : List Text) :
    vocabulary.readAltitude (angelsWord :: rest) = (vocabulary.readNumber rest).map (· * 1000) := by
  rw [readAltitude, readKeyword_cons_self]

theorem readAltitude_of_head?_ne {tokens : List Text} (other : tokens.head? ≠ some angelsWord) :
    vocabulary.readAltitude tokens =
      (vocabulary.readNumber tokens).andThen fun number rest =>
        match readKeyword thousandWord rest with
        | (true, rest) => .found (number * 1000) rest
        | (false, rest) => .found number rest := by
  rewrite [readAltitude, readKeyword_of_head?_ne other]
  rfl

/-- An altitude is read exactly if a phrase of it is taken from the front. -/
theorem readAltitude_eq_found_iff {tokens rest : List Text} {altitude : Nat} :
    vocabulary.readAltitude tokens = .found altitude rest ↔
      ∃ phrase : AltitudePhrase, phrase.IsTaken vocabulary rest ∧ tokens = phrase.tokens ++ rest ∧
        altitude = phrase.value vocabulary := by
  constructor
  · intro isFound
    rcases readKeyword_cases angelsWord tokens with ⟨others, rfl, _⟩ | ⟨other, _⟩
    · rw [readAltitude_angels, Reading.map_eq_found_iff] at isFound
      obtain ⟨number, isNumber, rfl⟩ := isFound
      obtain ⟨phrase, taken, rfl, rfl⟩ := readNumber_eq_found_iff.mp isNumber
      exact ⟨.angels phrase, taken, rfl, rfl⟩
    · rw [readAltitude_of_head?_ne other, Reading.andThen_eq_found_iff] at isFound
      obtain ⟨number, others, isNumber, isFound⟩ := isFound
      obtain ⟨phrase, taken, rfl, rfl⟩ := readNumber_eq_found_iff.mp isNumber
      have notAngels : phrase.tokens.head? ≠ some angelsWord := by
        intro inFront
        rw [List.head?_append, inFront] at other
        exact other rfl
      rcases readKeyword_cases thousandWord others with ⟨after, rfl, isNext⟩ | ⟨noThousand, isNext⟩
      · rw [isNext] at isFound
        obtain ⟨rfl, rfl⟩ := Reading.found_inj.mp isFound
        exact ⟨.thousands phrase, ⟨notAngels, taken⟩,
          (List.append_assoc _ [thousandWord] _).symm, rfl⟩
      · rw [isNext] at isFound
        obtain ⟨rfl, rfl⟩ := Reading.found_inj.mp isFound
        exact ⟨.feet phrase, ⟨notAngels, taken, noThousand⟩, rfl, rfl⟩
  · rintro ⟨phrase, taken, rfl, rfl⟩
    cases phrase with
    | angels number =>
      rw [AltitudePhrase.tokens, List.cons_append, readAltitude_angels,
        readNumber_eq_found_iff.mpr ⟨number, taken, rfl, rfl⟩]
      rfl
    | feet number =>
      obtain ⟨notAngels, taken, noThousand⟩ := taken
      rw [AltitudePhrase.tokens, readAltitude_of_head?_ne (taken.head?_append_ne notAngels _),
        readNumber_eq_found_iff.mpr ⟨number, taken, rfl, rfl⟩, Reading.andThen_found,
        readKeyword_of_head?_ne noThousand]
      rfl
    | thousands number =>
      obtain ⟨notAngels, taken⟩ := taken
      rw [AltitudePhrase.tokens, List.append_assoc, List.singleton_append,
        readAltitude_of_head?_ne (taken.head?_append_ne notAngels _),
        readNumber_eq_found_iff.mpr ⟨number, taken, rfl, rfl⟩, Reading.andThen_found,
        readKeyword_cons_self]
      rfl

theorem not_numberTooLong_angelsWord_cons (rest : List Text) (digits : Nat) :
    ¬NumberTooLong digits (angelsWord :: rest) := by
  rintro ⟨token, others, split, isNumeral, _⟩
  obtain ⟨rfl, rfl⟩ := List.cons_eq_cons.mp split
  exact absurd isNumeral (by decide)

/-- Reading an altitude faults exactly if its number does, with angels in front or not. -/
theorem readAltitude_result_eq_error_iff {tokens : List Text} {fault : Fault} :
    (vocabulary.readAltitude tokens).result = .error fault ↔
      ∃ digits, AltitudeTooLong digits tokens ∧ fault = .numeralTooLong digits := by
  rcases readKeyword_cases angelsWord tokens with ⟨others, rfl, _⟩ | ⟨other, _⟩
  · rw [readAltitude_angels, Reading.map_result_eq_error_iff, readNumber_result_eq_error_iff]
    constructor
    · rintro ⟨digits, tooLong, rfl⟩
      exact ⟨digits, .inr ⟨others, rfl, tooLong⟩, rfl⟩
    · rintro ⟨digits, tooLong | ⟨rest, split, tooLong⟩, rfl⟩
      · exact absurd tooLong (not_numberTooLong_angelsWord_cons _ _)
      · rw [(List.cons_eq_cons.mp split).2]
        exact ⟨digits, tooLong, rfl⟩
  · have noLaterFault (number : Nat) (rest : List Text) :
        (match readKeyword thousandWord rest with
          | (true, rest) => Reading.found (number * 1000) rest
          | (false, rest) => Reading.found number rest).result ≠ .error fault := by
      split <;> simp
    rw [readAltitude_of_head?_ne other, Reading.andThen_result_eq_error_iff,
      readNumber_result_eq_error_iff]
    constructor
    · rintro (⟨digits, tooLong, rfl⟩ | ⟨number, rest, _, fails⟩)
      · exact ⟨digits, .inl tooLong, rfl⟩
      · exact absurd fails (noLaterFault number rest)
    · rintro ⟨digits, tooLong | ⟨rest, rfl, _⟩, rfl⟩
      · exact .inl ⟨digits, tooLong, rfl⟩
      · exact absurd rfl other

/-! ### Locations -/

theorem SpellsBearing.degrees_eq {phrase : BraPhrase} {degrees : Nat}
    (spells : vocabulary.SpellsBearing phrase.bearing degrees) :
    phrase.degrees vocabulary = degrees := by
  obtain ⟨digits, spelled, _, rfl⟩ := spells.spelled
  rw [BraPhrase.degrees, spelled, Option.getD_some]

/-- A location is read exactly if a phrase of it is taken and nothing follows. -/
theorem readBra_result_eq_some_iff {tokens : List Text} {bra : Bra} :
    (vocabulary.readBra tokens).result = .ok (some bra) ↔
      ∃ phrase : BraPhrase, phrase.IsTaken vocabulary ∧ phrase.tokens = tokens ∧
        phrase.value vocabulary = bra := by
  constructor
  · intro isFound
    obtain ⟨bearing, afterBearing, isBearing, isFound⟩ :=
      Reading.andThen_eq_found_iff.mp (Reading.eq_found_of_result isFound)
    obtain ⟨range, afterRange, isRange, isFound⟩ := Reading.andThen_eq_found_iff.mp isFound
    obtain ⟨altitude, afterAltitude, isAltitude, isFound⟩ := Reading.andThen_eq_found_iff.mp isFound
    obtain ⟨taken, degrees, rfl, spells, rfl⟩ := readBearing_eq_found_iff.mp isBearing
    obtain ⟨rangePhrase, rangeTaken, rfl, rfl⟩ := readNumber_eq_found_iff.mp isRange
    obtain ⟨altitudePhrase, altitudeTaken, rfl, rfl⟩ := readAltitude_eq_found_iff.mp isAltitude
    split at isFound
    · next nothingLeft =>
      obtain rfl := List.isEmpty_iff.mp nothingLeft
      have degreesEq :
          (BraPhrase.mk taken rangePhrase altitudePhrase).degrees vocabulary = degrees :=
        SpellsBearing.degrees_eq spells
      rw [List.append_nil] at rangeTaken ⊢
      refine ⟨⟨taken, rangePhrase, altitudePhrase⟩,
        ⟨degreesEq.symm ▸ spells, rangeTaken, altitudeTaken⟩, rfl, ?_⟩
      rw [← (Reading.found_inj.mp isFound).1, BraPhrase.value, degreesEq]
    · exact absurd isFound (Reading.missing_ne_found _ _ _)
  · rintro ⟨phrase, taken, rfl, rfl⟩
    have isBearing : vocabulary.readBearing phrase.tokens =
        .found (phrase.degrees vocabulary % 360) (phrase.range.tokens ++ phrase.altitude.tokens) :=
      readBearing_eq_found_iff.mpr ⟨phrase.bearing, _, rfl, taken.bearing, rfl⟩
    have isRange : vocabulary.readNumber (phrase.range.tokens ++ phrase.altitude.tokens) =
        .found (phrase.range.value vocabulary) phrase.altitude.tokens :=
      readNumber_eq_found_iff.mpr ⟨phrase.range, taken.range, rfl, rfl⟩
    have isAltitude : vocabulary.readAltitude phrase.altitude.tokens =
        .found (phrase.altitude.value vocabulary) [] :=
      readAltitude_eq_found_iff.mpr
        ⟨phrase.altitude, taken.altitude, (List.append_nil _).symm, rfl⟩
    rw [readBra, isBearing, Reading.andThen_found, isRange, Reading.andThen_found, isAltitude]
    rfl

/-- Reading a location faults exactly if its range or its altitude does. -/
theorem readBra_result_eq_error_iff {tokens : List Text} {fault : Fault} :
    (vocabulary.readBra tokens).result = .error fault ↔
      ∃ digits, BraTooLong vocabulary digits tokens ∧ fault = .numeralTooLong digits := by
  have noLaterFault (bearing range : Nat) (altitude : Nat) (rest : List Text) :
      (if rest.isEmpty then Reading.found (⟨bearing, range, altitude⟩ : Bra) rest
        else Reading.missing rest).result ≠ .error fault := by
    split <;> simp
  simp only [readBra, Reading.andThen_result_eq_error_iff, readBearing_result_ne_error, false_or,
    noLaterFault, and_false, exists_false, or_false, readNumber_result_eq_error_iff,
    readAltitude_result_eq_error_iff]
  constructor
  · rintro ⟨bearing, rest, isBearing, fails⟩
    obtain ⟨taken, degrees, rfl, spells, rfl⟩ := readBearing_eq_found_iff.mp isBearing
    rcases fails with ⟨digits, tooLong, rfl⟩ | ⟨range, following, isRange, digits, tooLong, rfl⟩
    · exact ⟨digits, ⟨taken, degrees, rest, rfl, spells, .inl tooLong⟩, rfl⟩
    · obtain ⟨phrase, rangeTaken, rfl, rfl⟩ := readNumber_eq_found_iff.mp isRange
      exact ⟨digits, ⟨taken, degrees, _, rfl, spells,
        .inr ⟨phrase, following, rfl, rangeTaken, tooLong⟩⟩,
        rfl⟩
  · rintro ⟨digits, ⟨taken, degrees, rest, rfl, spells, tooLong⟩, rfl⟩
    refine ⟨degrees % 360, rest,
      readBearing_eq_found_iff.mpr ⟨taken, degrees, rfl, spells, rfl⟩, ?_⟩
    rcases tooLong with tooLong | ⟨range, following, rfl, rangeTaken, tooLong⟩
    · exact .inl ⟨digits, tooLong, rfl⟩
    · exact .inr ⟨_, following, readNumber_eq_found_iff.mpr ⟨range, rangeTaken, rfl, rfl⟩, digits,
        tooLong, rfl⟩

end Vocabulary

end RadioCall
