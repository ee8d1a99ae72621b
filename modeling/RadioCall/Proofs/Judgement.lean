/-
This file compares the judgement that a token is a number with the reader of numbers. Whatever
starts a number that is read is judged one. The converse has two exceptions, whatever the table
of digits: a single decimal digit that the table does not list, from which no number is read,
and a numeral with more digits than can be converted, which ends reading with a fault. A picture
has a radius exactly where a number is judged and read.
-/

import RadioCall.Proofs.Cursor
import RadioCall.Proofs.Request
import RadioCall.Vocabulary.Standard

namespace RadioCall

/-! ### Numerals that are judged numbers but not read -/

/-- Whether a token is a numeral with too many digits to be converted. -/
def IsOverlong (token : Text) : Prop :=
  isNumeral token ∧ numeralLimit < token.length

/-- A numeral that is no number on its own is a single character. -/
theorem length_eq_one_of_not_isLongNumeral {token : Text} (numeral : isNumeral token)
    (short : ¬isLongNumeral token) : token.length = 1 := by
  have single : token.length ≤ 1 := by simpa [isLongNumeral, numeral] using short
  have positive : 0 < token.length := by
    rw [isNumeral, Bool.and_eq_true_iff] at numeral
    cases token with
    | nil => exact absurd numeral.1 (by decide)
    | cons _ _ => exact Nat.succ_pos _
  exact Nat.le_antisymm single positive

namespace Vocabulary

variable {vocabulary : Vocabulary} {token : Text} {rest : List Text}

/-- Whether a token is a single decimal digit, of any script, that spells none in the table of
digits. -/
def IsUnlistedDigit (vocabulary : Vocabulary) (token : Text) : Prop :=
  isNumeral token ∧ token.length = 1 ∧ ¬vocabulary.isDigitWord token

/-- Whether a numeral cannot be read as a number. -/
def IsUnreadable (vocabulary : Vocabulary) (token : Text) : Prop :=
  vocabulary.IsUnlistedDigit token ∨ IsOverlong token

theorem isNumber_iff :
    vocabulary.isNumber token ↔ isNumeral token ∨ vocabulary.isDigitWord token :=
  Bool.or_eq_true_iff

theorem IsUnreadable.isNumber (unreadable : vocabulary.IsUnreadable token) :
    vocabulary.isNumber token := by
  obtain ⟨numeral, _⟩ | ⟨numeral, _⟩ := unreadable
  · exact isNumber_iff.mpr (.inl numeral)
  · exact isNumber_iff.mpr (.inl numeral)

/-! ### Reading what was judged -/

theorem readNumber_cons_of_isUnlistedDigit (unlisted : vocabulary.IsUnlistedDigit token) :
    vocabulary.readNumber (token :: rest) = .missing rest := by
  obtain ⟨_, single, other⟩ := unlisted
  refine readNumber_cons_of_other (fun long => ?_) other
  simp [isLongNumeral, single] at long

theorem readNumber_cons_of_isOverlong (overlong : IsOverlong token) :
    vocabulary.readNumber (token :: rest) =
      ⟨.error (.numeralTooLong token.length), rest⟩ := by
  obtain ⟨numeral, tooLong⟩ := overlong
  rw [readNumber_cons_of_isLongNumeral (isLongNumeral_of_numeralLimit_lt numeral tooLong),
    if_neg (Nat.not_le_of_lt tooLong)]

theorem readNumber_cons_of_not_isNumber (other : ¬vocabulary.isNumber token) :
    vocabulary.readNumber (token :: rest) = .missing rest := by
  obtain ⟨noNumeral, noDigit⟩ := not_or.mp (other ∘ isNumber_iff.mpr)
  exact readNumber_cons_of_other (fun long => noNumeral (Bool.and_eq_true_iff.mp long).1) noDigit

theorem IsUnreadable.result_ne {number : Nat} (unreadable : vocabulary.IsUnreadable token) :
    (vocabulary.readNumber (token :: rest)).result ≠ .ok (some number) := by
  rcases unreadable with unlisted | overlong
  · simp [readNumber_cons_of_isUnlistedDigit unlisted]
  · simp [readNumber_cons_of_isOverlong overlong]

theorem exists_readNumber_cons (judged : vocabulary.isNumber token)
    (readable : ¬vocabulary.IsUnreadable token) :
    ∃ number others, vocabulary.readNumber (token :: rest) = .found number others := by
  obtain ⟨listed, within⟩ := not_or.mp readable
  by_cases long : isLongNumeral token
  · have numeral : isNumeral token := (Bool.and_eq_true_iff.mp long).1
    have fits : token.length ≤ numeralLimit :=
      Nat.le_of_not_lt fun tooLong => within ⟨numeral, tooLong⟩
    rw [readNumber_cons_of_isLongNumeral long, if_pos fits]
    exact ⟨_, _, rfl⟩
  · -- What is left is a listed digit: a numeral of one character is one, as it is not unlisted.
    have isDigit : vocabulary.isDigitWord token := by
      rcases isNumber_iff.mp judged with numeral | isDigit
      · refine Classical.byContradiction fun other => listed ⟨numeral, ?_, other⟩
        exact length_eq_one_of_not_isLongNumeral numeral long
      · exact isDigit
    rw [readNumber_cons_of_isDigitWord long isDigit]
    exact ⟨_, _, rfl⟩

/-- Reading gives a number exactly if the first token is judged one and can be read. -/
theorem exists_readNumber_cons_iff :
    (∃ number, (vocabulary.readNumber (token :: rest)).result = .ok (some number)) ↔
      vocabulary.isNumber token ∧ ¬vocabulary.IsUnreadable token := by
  constructor
  · rintro ⟨number, isRead⟩
    refine ⟨Classical.byContradiction fun other => ?_, fun unreadable => ?_⟩
    · rw [readNumber_cons_of_not_isNumber other] at isRead
      cases isRead
    · exact unreadable.result_ne isRead
  · rintro ⟨judged, readable⟩
    obtain ⟨number, others, isFound⟩ := exists_readNumber_cons judged readable
    exact ⟨number, congrArg Reading.result isFound⟩

/-- Where a number is judged, the radius of a picture is what reading a number gives. -/
theorem readRequest_picture_cons (callsign : Text) (judged : vocabulary.isNumber token) :
    vocabulary.readRequest .picture callsign (token :: rest) =
      (vocabulary.readNumber (token :: rest)).result.map fun radius =>
        some (.picture callsign (radius.map Int.ofNat)) := by
  rw [readRequest, List.head?_cons, Option.any_some, if_pos judged]

/-- A picture has a radius exactly if its first token is judged a number and can be read. -/
theorem exists_radius_iff {callsign : Text} {tokens : List Text} :
    (∃ radius, vocabulary.readRequest .picture callsign tokens =
        .ok (some (.picture callsign (some radius)))) ↔
      ∃ token rest, tokens = token :: rest ∧ vocabulary.isNumber token ∧
        ¬vocabulary.IsUnreadable token := by
  cases tokens with
  | nil => simp [readRequest]
  | cons token rest =>
    constructor
    · rintro ⟨radius, isRead⟩
      by_cases judged : vocabulary.isNumber token
      · rw [readRequest_picture_cons callsign judged] at isRead
        obtain ⟨read, result, same⟩ := map_eq_ok_iff.mp isRead
        cases read with
        | none => cases same
        | some number => exact ⟨token, rest, rfl, exists_readNumber_cons_iff.mp ⟨number, result⟩⟩
      · rw [readRequest, List.head?_cons, Option.any_some, if_neg judged] at isRead
        cases isRead
    · rintro ⟨_, _, split, judged, readable⟩
      obtain ⟨rfl, rfl⟩ := List.cons_eq_cons.mp split
      obtain ⟨number, result⟩ := exists_readNumber_cons_iff.mpr ⟨judged, readable⟩
      rw [readRequest_picture_cons callsign judged, result]
      exact ⟨number, rfl⟩

end Vocabulary

/-! ### Judging and reading at a cursor -/

namespace Cursor

variable {vocabulary : Vocabulary} {cursor : Cursor}

/-- Whether the next token is judged a number. -/
def JudgesNumber (vocabulary : Vocabulary) (cursor : Cursor) : Prop :=
  ∃ token, cursor.peek = .ok (some token) ∧ vocabulary.isNumber token

/-- Whether reading a number gives one, and neither nothing nor a fault. -/
def ReadsNumber (vocabulary : Vocabulary) (cursor : Cursor) : Prop :=
  ∃ number, (cursor.read vocabulary.readNumber).1 = .ok (some number)

/-- Whether a picture that is asked for before the tokens ahead has a radius. -/
def ReportsRadius (vocabulary : Vocabulary) (callsign : Text) (cursor : Cursor) : Prop :=
  ∃ tokens radius, cursor.ahead = .ok tokens ∧
    vocabulary.readRequest .picture callsign tokens = .ok (some (.picture callsign (some radius)))

/-- Whether the next token is a numeral that cannot be read. -/
def FacesUnreadable (vocabulary : Vocabulary) (cursor : Cursor) : Prop :=
  ∃ token, cursor.peek = .ok (some token) ∧ vocabulary.IsUnreadable token

theorem peek_eq_some_iff {token : Text} :
    cursor.peek = .ok (some token) ↔ ∃ rest, cursor.ahead = .ok (token :: rest) := by
  rw [peek, map_eq_ok_iff]
  constructor
  · rintro ⟨tokens, ahead, inFront⟩
    obtain ⟨rest, rfl⟩ := List.head?_eq_some_iff.mp inFront
    exact ⟨rest, ahead⟩
  · rintro ⟨rest, ahead⟩
    exact ⟨token :: rest, ahead, rfl⟩

theorem FacesUnreadable.judgesNumber (faces : cursor.FacesUnreadable vocabulary) :
    cursor.JudgesNumber vocabulary := by
  obtain ⟨token, next, unreadable⟩ := faces
  exact ⟨token, next, unreadable.isNumber⟩

/-- There is one next token, so a number can be judged and read there exactly if it is judged and
no unreadable numeral stands there. -/
theorem judgesNumber_and_not_facesUnreadable_iff :
    cursor.JudgesNumber vocabulary ∧ ¬cursor.FacesUnreadable vocabulary ↔
      ∃ token rest, cursor.ahead = .ok (token :: rest) ∧ vocabulary.isNumber token ∧
        ¬vocabulary.IsUnreadable token := by
  constructor
  · rintro ⟨⟨token, next, judged⟩, readable⟩
    obtain ⟨rest, ahead⟩ := peek_eq_some_iff.mp next
    exact ⟨token, rest, ahead, judged, fun unreadable => readable ⟨token, next, unreadable⟩⟩
  · rintro ⟨token, rest, ahead, judged, readable⟩
    have next := peek_eq_some_iff.mpr ⟨rest, ahead⟩
    refine ⟨⟨token, next, judged⟩, ?_⟩
    rintro ⟨other, isOther, unreadable⟩
    rw [next, Except.ok.injEq, Option.some.injEq] at isOther
    exact readable (isOther ▸ unreadable)

theorem readsNumber_iff :
    cursor.ReadsNumber vocabulary ↔
      cursor.JudgesNumber vocabulary ∧ ¬cursor.FacesUnreadable vocabulary := by
  rw [judgesNumber_and_not_facesUnreadable_iff, ReadsNumber]
  cases ahead : cursor.ahead with
  | error fault => simp [read, ahead]
  | ok tokens =>
    rw [read_of_ahead ahead]
    cases tokens with
    | nil => simp [Vocabulary.readNumber]
    | cons token rest => simp [Vocabulary.exists_readNumber_cons_iff]

theorem reportsRadius_iff {callsign : Text} :
    cursor.ReportsRadius vocabulary callsign ↔
      cursor.JudgesNumber vocabulary ∧ ¬cursor.FacesUnreadable vocabulary := by
  rw [judgesNumber_and_not_facesUnreadable_iff]
  constructor
  · rintro ⟨tokens, radius, ahead, reported⟩
    obtain ⟨token, rest, rfl, readable⟩ := Vocabulary.exists_radius_iff.mp ⟨radius, reported⟩
    exact ⟨token, rest, ahead, readable⟩
  · rintro ⟨token, rest, ahead, readable⟩
    obtain ⟨radius, reported⟩ := Vocabulary.exists_radius_iff.mpr ⟨token, rest, rfl, readable⟩
    exact ⟨token :: rest, radius, ahead, reported⟩

/-- What holds exactly where a number is judged and readable follows from the judgement exactly
if no unreadable numeral stands there. -/
theorem judgesNumber_imp_iff {property : Prop}
    (meaning : property ↔ cursor.JudgesNumber vocabulary ∧ ¬cursor.FacesUnreadable vocabulary) :
    (cursor.JudgesNumber vocabulary → property) ↔ ¬cursor.FacesUnreadable vocabulary := by
  constructor
  · intro agrees faces
    exact (meaning.mp (agrees faces.judgesNumber)).2 faces
  · exact fun readable judged => meaning.mpr ⟨judged, readable⟩

/-- The judgement that the next token is a number agrees with the reader of numbers, and a picture
has a radius wherever a number is judged, exactly if the next token is no unreadable numeral. From
an unlisted digit no number is read and the picture has no radius; a numeral that is too long ends
both with a fault. -/
theorem judgesNumber_against_readsNumber (vocabulary : Vocabulary) (cursor : Cursor) :
    ((cursor.JudgesNumber vocabulary ↔ cursor.ReadsNumber vocabulary) ↔
        ¬cursor.FacesUnreadable vocabulary) ∧
      (∀ callsign, (cursor.JudgesNumber vocabulary → cursor.ReportsRadius vocabulary callsign) ↔
        ¬cursor.FacesUnreadable vocabulary) ∧
      ∀ token rest callsign, cursor.ahead = .ok (token :: rest) →
        (vocabulary.IsUnlistedDigit token →
          (cursor.read vocabulary.readNumber).1 = .ok none ∧
            vocabulary.readRequest .picture callsign (token :: rest) =
              .ok (some (.picture callsign none))) ∧
        (IsOverlong token →
          (cursor.read vocabulary.readNumber).1 = .error (.numeralTooLong token.length) ∧
            vocabulary.readRequest .picture callsign (token :: rest) =
              .error (.numeralTooLong token.length)) := by
  refine ⟨?_, fun callsign => judgesNumber_imp_iff reportsRadius_iff, ?_⟩
  · constructor
    · exact fun agrees => (judgesNumber_imp_iff readsNumber_iff).mp agrees.mp
    · intro readable
      exact ⟨(judgesNumber_imp_iff readsNumber_iff).mpr readable,
        fun reads => (readsNumber_iff.mp reads).1⟩
  · intro token rest callsign ahead
    rw [read_of_ahead ahead]
    constructor
    · intro unlisted
      have unreadable : vocabulary.IsUnreadable token := .inl unlisted
      rw [Vocabulary.readRequest_picture_cons callsign unreadable.isNumber,
        Vocabulary.readNumber_cons_of_isUnlistedDigit unlisted]
      exact ⟨rfl, rfl⟩
    · intro overlong
      have unreadable : vocabulary.IsUnreadable token := .inr overlong
      rw [Vocabulary.readRequest_picture_cons callsign unreadable.isNumber,
        Vocabulary.readNumber_cons_of_isOverlong overlong]
      exact ⟨rfl, rfl⟩

/-- A three in Arabic script is judged a number, but the standard table does not list it. -/
theorem judgesNumber_against_readsNumber_arabicThree :
    ¬((ofText "٣".toList).JudgesNumber .standard ↔ (ofText "٣".toList).ReadsNumber .standard) := by
  have unlisted : Vocabulary.standard.IsUnlistedDigit "٣".toList :=
    ⟨by decide, by decide, by decide⟩
  have faces : (ofText "٣".toList).FacesUnreadable .standard := ⟨"٣".toList, rfl, .inl unlisted⟩
  exact fun agrees =>
    (judgesNumber_against_readsNumber .standard (ofText "٣".toList)).1.mp agrees faces

end Cursor

end RadioCall
