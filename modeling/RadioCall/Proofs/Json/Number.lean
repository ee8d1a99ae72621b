/-
This file proves that numbers read back from JSON. A number ends where no character follows
that could belong to it, so its whole part, its fraction and its exponent are found again. A
double is written by its shortest decimal number, in one of three forms; each of them has the
same value, except that the zeros at the end are counted differently.
-/

import Mathlib.Tactic.SplitIfs
import RadioCall.Json.Writer
import RadioCall.Proofs.Number.Shortest
import RadioCall.Proofs.Text.Words

namespace RadioCall

/-- Whether a scalar is one that JSON has a form for. A double must be one that results can be;
bytes, dates and moments have no form. -/
def Scalar.IsProper : Scalar → Prop
  | double value => value.IsProper
  | bytes _ => False
  | date _ => False
  | moment _ => False
  | _ => True

namespace Json

/-! ### Ends of numbers -/

/-- Whether no character of a number stands at the front of a text. -/
def EndsNumber (rest : Text) : Prop :=
  ∀ character ∈ rest.head?,
    ¬character.isDigit ∧ character ≠ '.' ∧ character ≠ 'e' ∧ character ≠ 'E'

/-- Whether a text is made of digits, and of at least one. -/
structure AreDigits (digits : Text) : Prop where
  nonempty : digits ≠ []
  isDigit : ∀ character ∈ digits, character.isDigit

theorem areDigits_decimal (number : Nat) : AreDigits (decimal number) :=
  ⟨decimal_ne_nil number, forall_mem_decimal (by decide) number⟩

theorem AreDigits.append {first : Text} (areDigits : AreDigits first) (second : Text)
    (isDigit : ∀ character ∈ second, character.isDigit) : AreDigits (first ++ second) :=
  ⟨List.append_ne_nil_of_left_ne_nil areDigits.nonempty second,
    fun character member => (List.mem_append.mp member).elim (areDigits.isDigit character)
      (isDigit character)⟩

theorem AreDigits.isEmpty_eq {digits : Text} (areDigits : AreDigits digits) :
    digits.isEmpty = false :=
  List.isEmpty_eq_false_iff.mpr areDigits.nonempty

theorem isDigit_of_mem_zeros {count : Nat} {character : Char}
    (member : character ∈ List.replicate count '0') : character.isDigit := by
  rw [List.eq_of_mem_replicate member]
  rfl

/-- Digits in front of another character are taken whole. -/
theorem AreDigits.takeWhile {digits rest : Text} (areDigits : AreDigits digits)
    (ends : ∀ character ∈ rest.head?, ¬character.isDigit) :
    (digits ++ rest).takeWhile Char.isDigit = digits ∧
      (digits ++ rest).dropWhile Char.isDigit = rest :=
  takeWhile_dropWhile_of_ends areDigits.isDigit ends

/-! ### Parts of numbers -/

/-- Digits that do not begin with a zero are a whole part, and so is a single zero. -/
theorem takeWhole_append {whole rest : Text} (areDigits : AreDigits whole)
    (proper : whole = ['0'] ∨ whole.head? ≠ some '0')
    (ends : ∀ character ∈ rest.head?, ¬character.isDigit) :
    takeWhole (whole ++ rest) = (whole, rest) := by
  rcases proper with rfl | noZero
  · rfl
  · obtain ⟨taken, dropped⟩ := areDigits.takeWhile ends
    obtain ⟨first, others, rfl⟩ := List.exists_cons_of_ne_nil areDigits.nonempty
    unfold takeWhole
    split
    · next isZero =>
      rw [List.cons_append, List.cons.injEq] at isZero
      exact absurd (congrArg some isZero.1) noZero
    · rw [taken, dropped]

theorem takeFraction_append {fraction rest : Text} (areDigits : AreDigits fraction)
    (ends : ∀ character ∈ rest.head?, ¬character.isDigit) :
    takeFraction ('.' :: (fraction ++ rest)) = (fraction, rest) := by
  obtain ⟨taken, dropped⟩ := areDigits.takeWhile ends
  simp only [takeFraction]
  rw [taken, dropped, areDigits.isEmpty_eq]
  rfl

theorem takeFraction_of_ne {rest : Text} (noPoint : rest.head? ≠ some '.') :
    takeFraction rest = ([], rest) := by
  unfold takeFraction
  split
  · exact absurd rfl noPoint
  · rfl

theorem takeExponent_of_ne {rest : Text}
    (noLetter : ∀ character ∈ rest.head?, character ≠ 'e' ∧ character ≠ 'E') :
    takeExponent rest = (none, rest) := by
  unfold takeExponent
  split
  · next letter _ => rw [if_neg (not_or.mpr (noLetter letter rfl))]
  · rfl

/-- The digits of an exponent, at least two. -/
def exponentDigits (exponent : Int) : Text :=
  if (decimal exponent.natAbs).length < 2 then '0' :: decimal exponent.natAbs
  else decimal exponent.natAbs

theorem areDigits_exponentDigits (exponent : Int) : AreDigits (exponentDigits exponent) := by
  have digits := areDigits_decimal exponent.natAbs
  unfold exponentDigits
  split
  · exact ⟨List.cons_ne_nil _ _, List.forall_mem_cons.mpr ⟨rfl, digits.isDigit⟩⟩
  · exact digits

theorem numeralValue_exponentDigits (exponent : Int) :
    numeralValue (exponentDigits exponent) = exponent.natAbs := by
  unfold exponentDigits
  split
  · exact (numeralValue_zeros_append 1 _).trans (numeralValue_decimal _)
  · exact numeralValue_decimal _

/-- An exponent reads back. -/
theorem takeExponent_exponentText (exponent : Int) {rest : Text}
    (ends : ∀ character ∈ rest.head?, ¬character.isDigit) :
    takeExponent (Double.exponentText exponent ++ rest) = (some exponent, rest) := by
  have areDigits := areDigits_exponentDigits exponent
  have value := numeralValue_exponentDigits exponent
  have written : Double.exponentText exponent =
      'e' :: (if exponent < 0 then '-' else '+') :: exponentDigits exponent := rfl
  obtain ⟨taken, dropped⟩ := areDigits.takeWhile ends
  rw [written]
  by_cases negative : exponent < 0
  · rw [if_pos negative, List.cons_append, List.cons_append, takeExponent, if_pos (.inl rfl)]
    rw [taken, dropped, areDigits.isEmpty_eq, value, Double.signed, if_pos rfl, if_neg (by decide)]
    exact congrArg (fun read => (some read, rest)) (by omega)
  · rw [if_neg negative, List.cons_append, List.cons_append, takeExponent, if_pos (.inl rfl)]
    rw [taken, dropped, areDigits.isEmpty_eq, value, Double.signed, if_neg (by decide),
      if_neg (by decide)]
    exact congrArg (fun read => (some read, rest)) (by omega)

/-! ### Whole numbers -/

/-- Digits alone are a whole number, as far as they may be read. -/
theorem readNumber_decimal (isNegative : Bool) {number : Nat}
    (short : number < powerOfTen numeralLimit) {rest : Text} (ends : EndsNumber rest) :
    readNumber isNegative (decimal number ++ rest) =
      .ok (.integer (Double.signed isNegative number), rest) := by
  have proper : decimal number = ['0'] ∨ (decimal number).head? ≠ some '0' := by
    rcases Nat.eq_zero_or_pos number with rfl | positive
    · exact .inl rfl
    · exact .inr (head?_decimal_ne_zero positive.ne')
  have whole := takeWhole_append (areDigits_decimal number) proper fun character member =>
    (ends character member).1
  have fraction := takeFraction_of_ne fun isPoint => (ends '.' isPoint).2.1 rfl
  have exponent := takeExponent_of_ne fun character member => (ends character member).2.2
  have isRead : readNumeral (decimal number) = .ok number := by
    rw [readNumeral, if_pos ((length_decimal_le_iff (by decide)).mpr short), numeralValue_decimal]
  simp only [readNumber, whole, fraction, exponent, (areDigits_decimal number).isEmpty_eq]
  rw [if_neg (by decide), if_pos (by decide), isRead]
  rfl

/-! ### Fractions -/

/-- A number with a fraction or an exponent is a double. -/
theorem readNumber_of_parts {isNegative : Bool} {text afterWhole afterFraction rest : Text}
    {whole fraction : Text} {exponent : Option Int} {value : Double}
    (isWhole : takeWhole text = (whole, afterWhole)) (nonempty : whole ≠ [])
    (isFraction : takeFraction afterWhole = (fraction, afterFraction))
    (isExponent : takeExponent afterFraction = (exponent, rest))
    (isDouble : fraction ≠ [] ∨ exponent ≠ none)
    (isValue : Double.ofDecimal isNegative (numeralValue (whole ++ fraction))
      (exponent.getD 0 - fraction.length) = value) :
    readNumber isNegative text = .ok (.double value, rest) := by
  have notInteger : ¬(fraction.isEmpty && exponent.isNone) := by
    rw [Bool.and_eq_true, List.isEmpty_iff, Option.isNone_iff_eq_none]
    exact not_and_or.mpr isDouble
  simp only [readNumber, isWhole, isFraction, isExponent]
  rw [if_neg (by simpa using nonempty), if_neg notInteger, isValue]

theorem forall_head?_cons {holds : Char → Prop} {first : Char} (isFirst : holds first)
    (others : Text) : ∀ character ∈ (first :: others).head?, holds character := by
  rintro character ⟨⟩
  exact isFirst

/-! ### Forms of doubles -/

section Layout

variable {digits rest : Text} {exponent : Int}

/-- The value of digits, the first of them at the place of the exponent. -/
def placed (isNegative : Bool) (digits : Text) (exponent : Int) : Double :=
  .ofDecimal isNegative (numeralValue digits) (exponent + 1 - digits.length)

/-- One digit in front of the point, and an exponent. -/
theorem readNumber_scientific (isNegative : Bool) (areDigits : AreDigits digits)
    (noZero : digits.head? ≠ some '0') (far : exponent < -4 ∨ 15 < exponent)
    (ends : EndsNumber rest) :
    readNumber isNegative (Double.layout digits exponent ++ rest) =
      .ok (.double (placed isNegative digits exponent), rest) := by
  obtain ⟨first, others, rfl⟩ := List.exists_cons_of_ne_nil areDigits.nonempty
  obtain ⟨isFirst, areOthers⟩ := List.forall_mem_cons.mp areDigits.isDigit
  have firstDigit : AreDigits [first] :=
    ⟨List.cons_ne_nil first [], List.forall_mem_singleton.mpr isFirst⟩
  have isExponent := takeExponent_exponentText exponent fun character member =>
    (ends character member).1
  -- The exponent begins with a letter.
  obtain ⟨written, isWritten⟩ :
      ∃ written, Double.exponentText exponent ++ rest = 'e' :: written := ⟨_, rfl⟩
  unfold Double.layout
  rw [if_pos far]
  cases others with
  | nil =>
    have isWhole := takeWhole_append firstDigit (.inr noZero)
      (forall_head?_cons (by decide : ¬ 'e'.isDigit) written)
    have noPoint : ('e' :: written).head? ≠ some '.' := mt Option.some.inj (by decide)
    have isFraction := takeFraction_of_ne noPoint
    rw [← isWritten] at isWhole isFraction
    refine readNumber_of_parts isWhole firstDigit.nonempty isFraction isExponent (.inr nofun) ?_
    rw [placed, List.append_nil, Option.getD_some]
    exact congrArg (Double.ofDecimal isNegative _) (by simp)
  | cons second others =>
    have isWhole := takeWhole_append firstDigit (.inr noZero)
      (forall_head?_cons (by decide : ¬ '.'.isDigit) (second :: others ++ 'e' :: written))
    have isFraction := takeFraction_append ⟨List.cons_ne_nil second others, areOthers⟩
      (forall_head?_cons (by decide : ¬ 'e'.isDigit) written)
    rw [← isWritten] at isWhole isFraction
    rw [List.append_assoc]
    refine readNumber_of_parts isWhole firstDigit.nonempty isFraction isExponent (.inr nofun) ?_
    rw [placed, List.cons_append, List.nil_append, Option.getD_some]
    exact congrArg (Double.ofDecimal isNegative _) (by simp only [List.length_cons]; omega)

/-- A zero in front of the point, and further zeros after it. -/
theorem readNumber_small (isNegative : Bool) (areDigits : AreDigits digits)
    (near : ¬(exponent < -4 ∨ 15 < exponent)) (negative : exponent < 0)
    (ends : EndsNumber rest) :
    readNumber isNegative (Double.layout digits exponent ++ rest) =
      .ok (.double (placed isNegative digits exponent), rest) := by
  have areFraction : AreDigits (List.replicate ((-exponent).toNat - 1) '0' ++ digits) :=
    ⟨List.append_ne_nil_of_right_ne_nil _ areDigits.nonempty, fun character member =>
      (List.mem_append.mp member).elim isDigit_of_mem_zeros (areDigits.isDigit character)⟩
  have isWhole : takeWhole ('0' :: '.' :: (List.replicate ((-exponent).toNat - 1) '0' ++ digits ++
      rest)) = (['0'], _) := rfl
  have isFraction := takeFraction_append areFraction fun character member =>
    (ends character member).1
  have isExponent := takeExponent_of_ne fun character member => (ends character member).2.2
  unfold Double.layout
  rw [if_neg near, if_pos negative]
  refine readNumber_of_parts isWhole (List.cons_ne_nil _ _) isFraction isExponent
    (.inl areFraction.nonempty) ?_
  have value : numeralValue (['0'] ++ (List.replicate ((-exponent).toNat - 1) '0' ++ digits)) =
      numeralValue digits :=
    (numeralValue_zeros_append 1 _).trans (numeralValue_zeros_append _ digits)
  rw [value, placed, List.length_append, List.length_replicate, Option.getD_none]
  exact congrArg (Double.ofDecimal isNegative _) (by omega)

/-- The point among the digits. -/
theorem readNumber_split (isNegative : Bool) (areDigits : AreDigits digits)
    (noZero : digits.head? ≠ some '0') {place : Nat} (near : ¬((place : Int) < -4 ∨ 15 < (place : Int)))
    (long : place + 1 < digits.length) (ends : EndsNumber rest) :
    readNumber isNegative (Double.layout digits place ++ rest) =
      .ok (.double (placed isNegative digits place), rest) := by
  have areWhole : AreDigits (digits.take (place + 1)) := by
    refine ⟨fun empty => ?_, fun character member => ?_⟩
    · have length := congrArg List.length empty
      rw [List.length_take, List.length_nil] at length
      omega
    · exact areDigits.isDigit character (List.mem_of_mem_take member)
  have areFraction : AreDigits (digits.drop (place + 1)) := by
    refine ⟨fun empty => ?_, fun character member => ?_⟩
    · exact absurd (List.drop_eq_nil_iff.mp empty) (Nat.not_le.mpr long)
    · exact areDigits.isDigit character (List.mem_of_mem_drop member)
  have noFill : place + 1 - (digits.take (place + 1)).length = 0 := by
    rw [List.length_take]
    omega
  have wholeNoZero : (digits.take (place + 1)).head? ≠ some '0' := by
    rw [List.head?_take, if_neg (Nat.succ_ne_zero place)]
    exact noZero
  have isWhole := takeWhole_append areWhole (.inr wholeNoZero)
    (forall_head?_cons (by decide : ¬ '.'.isDigit) (digits.drop (place + 1) ++ rest))
  have isFraction := takeFraction_append areFraction fun character member =>
    (ends character member).1
  have isExponent := takeExponent_of_ne fun character member => (ends character member).2.2
  unfold Double.layout
  rw [if_neg near, if_neg (by omega), Int.toNat_natCast]
  simp only [noFill, areFraction.isEmpty_eq, List.replicate_zero, List.append_nil]
  rw [List.append_assoc]
  refine readNumber_of_parts isWhole areWhole.nonempty isFraction isExponent
    (.inl areFraction.nonempty) ?_
  rw [List.take_append_drop, placed, Option.getD_none, List.length_drop]
  exact congrArg (Double.ofDecimal isNegative _) (by omega)

/-- Zeros behind the digits, the point, and one more zero. -/
theorem readNumber_filled (isNegative : Bool) (areDigits : AreDigits digits)
    (noZero : digits.head? ≠ some '0') (positive : numeralValue digits ≠ 0) {place : Nat}
    (near : ¬((place : Int) < -4 ∨ 15 < (place : Int))) (short : digits.length ≤ place + 1)
    (ends : EndsNumber rest) :
    readNumber isNegative (Double.layout digits place ++ rest) =
      .ok (.double (placed isNegative digits place), rest) := by
  have all : digits.take (place + 1) = digits := List.take_of_length_le short
  have none : digits.drop (place + 1) = [] := List.drop_eq_nil_iff.mpr short
  have areWhole := areDigits.append (List.replicate (place + 1 - digits.length) '0') fun _ =>
    isDigit_of_mem_zeros
  have wholeNoZero :
      (digits ++ List.replicate (place + 1 - digits.length) '0').head? ≠ some '0' := by
    obtain ⟨first, others, rfl⟩ := List.exists_cons_of_ne_nil areDigits.nonempty
    exact noZero
  have isWhole := takeWhole_append areWhole (.inr wholeNoZero)
    (forall_head?_cons (by decide : ¬ '.'.isDigit) (['0'] ++ rest))
  have isFraction := takeFraction_append (areDigits_decimal 0) fun character member =>
    (ends character member).1
  have isExponent := takeExponent_of_ne fun character member => (ends character member).2.2
  unfold Double.layout
  rw [if_neg near, if_neg (by omega), Int.toNat_natCast]
  simp only [all, none, List.isEmpty_nil, if_pos]
  rw [List.append_assoc]
  refine readNumber_of_parts isWhole areWhole.nonempty isFraction isExponent
    (.inl (List.cons_ne_nil _ _)) ?_
  have zeros : List.replicate (place + 1 - digits.length) '0' ++ decimal 0 =
      List.replicate (place + 1 - digits.length + 1) '0' := List.replicate_succ'.symm
  rw [List.append_assoc, zeros, numeralValue_append_zeros, placed, Option.getD_none,
    ← Double.ofDecimal_mul_powerOfTen isNegative _ positive (place + 1 - digits.length + 1)]
  refine congrArg (Double.ofDecimal isNegative _) ?_
  rw [show (decimal 0).length = 1 from rfl]
  omega

/-- A number reads back from the form in which it is set. -/
theorem readNumber_layout (isNegative : Bool) (areDigits : AreDigits digits)
    (noZero : digits.head? ≠ some '0') (positive : numeralValue digits ≠ 0) (exponent : Int)
    (ends : EndsNumber rest) :
    readNumber isNegative (Double.layout digits exponent ++ rest) =
      .ok (.double (placed isNegative digits exponent), rest) := by
  by_cases far : exponent < -4 ∨ 15 < exponent
  · exact readNumber_scientific isNegative areDigits noZero far ends
  · by_cases negative : exponent < 0
    · exact readNumber_small isNegative areDigits far negative ends
    · obtain ⟨place, rfl⟩ := Int.eq_ofNat_of_zero_le (Int.not_lt.mp negative)
      rcases Nat.lt_or_ge (place + 1) digits.length with long | short
      · exact readNumber_split isNegative areDigits noZero far long ends
      · exact readNumber_filled isNegative areDigits noZero positive far short ends

end Layout

/-! ### Doubles -/

/-- Digits are those without the zeros at the end, and the zeros. -/
theorem exists_zeros (digits : Text) :
    ∃ count, digits = Double.dropTrailingZeros digits ++ List.replicate count '0' := by
  have split := List.takeWhile_append_dropWhile (p := (· == '0')) (l := digits.reverse)
  have zeros : digits.reverse.takeWhile (· == '0') =
      List.replicate (digits.reverse.takeWhile (· == '0')).length '0' :=
    List.eq_replicate_iff.mpr ⟨rfl, fun character member => by
      simpa using List.all_eq_true.mp List.all_takeWhile character member⟩
  refine ⟨(digits.reverse.takeWhile (· == '0')).length, ?_⟩
  rw [Double.dropTrailingZeros, ← List.reverse_replicate, ← zeros, ← List.reverse_append, split,
    List.reverse_reverse]

theorem exists_zeros_decimal (number : Nat) :
    ∃ count,
      decimal number = Double.dropTrailingZeros (decimal number) ++ List.replicate count '0' ∧
      numeralValue (Double.dropTrailingZeros (decimal number)) * powerOfTen count = number := by
  obtain ⟨count, split⟩ := exists_zeros (decimal number)
  have value := numeralValue_decimal number
  rw [split, numeralValue_append_zeros] at value
  exact ⟨count, split, value⟩

/-- The digits of a decimal number without the zeros at its end have its value. -/
theorem placed_dropTrailingZeros (isNegative : Bool) {digits : Nat} (exponent : Int)
    (positive : digits ≠ 0) :
    placed isNegative (Double.dropTrailingZeros (decimal digits))
        (exponent + (decimal digits).length - 1) =
      .ofDecimal isNegative digits exponent := by
  obtain ⟨zeros, split, value⟩ := exists_zeros_decimal digits
  have front := left_ne_zero_of_mul (value.trans_ne positive)
  have length := congrArg List.length split
  rw [List.length_append, List.length_replicate] at length
  rw [placed, ← Double.ofDecimal_mul_powerOfTen isNegative _ front zeros, value]
  exact congrArg (Double.ofDecimal isNegative digits) (by omega)

/-- The digits of a positive number keep their form when the zeros at the end are left out. -/
theorem dropTrailingZeros_decimal {digits : Nat} (positive : digits ≠ 0) :
    AreDigits (Double.dropTrailingZeros (decimal digits)) ∧
      (Double.dropTrailingZeros (decimal digits)).head? ≠ some '0' ∧
      numeralValue (Double.dropTrailingZeros (decimal digits)) ≠ 0 := by
  obtain ⟨zeros, split, value⟩ := exists_zeros_decimal digits
  have areDigits := areDigits_decimal digits
  have noZero := head?_decimal_ne_zero positive
  have front := left_ne_zero_of_mul (value.trans_ne positive)
  rw [split] at areDigits noZero
  generalize Double.dropTrailingZeros (decimal digits) = kept at *
  have nonempty : kept ≠ [] := fun empty => front (congrArg numeralValue empty)
  refine ⟨⟨nonempty, fun character member => ?_⟩, ?_, front⟩
  · exact areDigits.isDigit character (List.mem_append_left _ member)
  · obtain ⟨first, others, rfl⟩ := List.exists_cons_of_ne_nil nonempty
    exact noZero

/-- The magnitude of a double reads back after its sign. -/
theorem readNumber_magnitudeText (isNegative : Bool) {magnitude : Nat}
    (isMagnitude : Double.IsMagnitude magnitude) {rest : Text} (ends : EndsNumber rest) :
    readNumber isNegative (Double.magnitudeText magnitude ++ rest) =
      .ok (.double (.finite isNegative magnitude), rest) := by
  by_cases zero : magnitude = 0
  · have isWhole : takeWhole ('0' :: '.' :: (['0'] ++ rest)) = (['0'], _) := rfl
    have isFraction := takeFraction_append (areDigits_decimal 0) fun character member =>
      (ends character member).1
    have isExponent := takeExponent_of_ne fun character member => (ends character member).2.2
    rw [zero, Double.magnitudeText, if_pos rfl]
    exact readNumber_of_parts isWhole (List.cons_ne_nil _ _) isFraction isExponent
      (.inl (List.cons_ne_nil _ _)) rfl
  · have positive := Double.digits_shortest_ne_zero zero isMagnitude
    obtain ⟨areDigits, noZero, front⟩ := dropTrailingZeros_decimal positive
    rw [Double.magnitudeText, if_neg zero, ← Double.ofDecimal_shortest isNegative zero isMagnitude,
      ← placed_dropTrailingZeros isNegative _ positive]
    exact readNumber_layout isNegative areDigits noZero front _ ends

/-! ### Names and numbers -/

/-- What is read as a number begins with a digit. -/
theorem exists_digit_of_readNumber {isNegative : Bool} {text : Text} {found : Scalar × Text}
    (isRead : readNumber isNegative text = .ok found) :
    ∃ first others, text = first :: others ∧ first.isDigit := by
  cases text with
  | nil => cases isRead
  | cons first others =>
    refine ⟨first, others, rfl, ?_⟩
    by_contra noDigit
    have noWhole : (takeWhole (first :: others)).1 = [] := by
      unfold takeWhole
      split
      · next isZero =>
        rw [(List.cons.inj isZero).1] at noDigit
        exact absurd rfl noDigit
      · rw [List.takeWhile_cons_of_neg noDigit]
    simp only [readNumber] at isRead
    rw [noWhole] at isRead
    cases isRead

/-- The first characters of the values that are written as names. -/
def nameInitials : Text :=
  ['n', 't', 'f', 'N', 'I']

/-- What does not begin as a name does is no name. -/
theorem readName?_eq_none {first : Char} (other : first ∉ nameInitials) {others : Text}
    (noInfinity : first = '-' → others.head? ≠ some 'I') : readName? (first :: others) = none := by
  simp only [nameInitials, List.mem_cons, List.not_mem_nil, or_false, not_or] at other
  obtain ⟨notNull, notTrue, notFalse, notNumber, notInfinity⟩ := other
  have begins {initial : Char} {wanted : Text} (apart : first ≠ initial) :
      expect? (initial :: wanted) (first :: others) = none := by
    rw [expect?, if_neg apart.symm]
  have negative : expect? "-Infinity".toList (first :: others) = none := by
    by_cases isMinus : first = '-'
    · cases others with
      | nil => rw [isMinus]; rfl
      | cons second others =>
        have apart : 'I' ≠ second := fun same => noInfinity isMinus (congrArg some same.symm)
        rw [isMinus]
        exact if_neg apart
    · exact begins isMinus
  simp only [readName?, names, List.findSome?_cons, List.findSome?_nil]
  rw [show expect? "null".toList (first :: others) = none from begins notNull,
    show expect? "true".toList (first :: others) = none from begins notTrue,
    show expect? "false".toList (first :: others) = none from begins notFalse,
    show expect? "NaN".toList (first :: others) = none from begins notNumber,
    show expect? "Infinity".toList (first :: others) = none from begins notInfinity, negative]
  rfl

theorem notMem_nameInitials {first : Char} (isDigit : first.isDigit) : first ∉ nameInitials := by
  intro member
  have noDigits : nameInitials.all fun initial => !initial.isDigit := by decide
  have noDigit := List.all_eq_true.mp noDigits first member
  rw [isDigit] at noDigit
  cases noDigit

/-- A number without a sign is no name. -/
theorem readBare_of_readNumber {text : Text} {found : Scalar × Text}
    (isRead : readNumber false text = .ok found) : readBare text = .ok found := by
  obtain ⟨first, others, rfl, isDigit⟩ := exists_digit_of_readNumber isRead
  have noMinus : first ≠ '-' := by
    rintro rfl
    exact absurd isDigit (by decide)
  unfold readBare
  rw [readName?_eq_none (notMem_nameInitials isDigit) fun isMinus => absurd isMinus noMinus]
  simp only
  split
  · next isMinus => exact absurd (List.cons.inj isMinus).1 noMinus
  · exact isRead

/-- A number after a minus sign is no name. -/
theorem readBare_minus {text : Text} {found : Scalar × Text}
    (isRead : readNumber true text = .ok found) : readBare ('-' :: text) = .ok found := by
  obtain ⟨first, others, rfl, isDigit⟩ := exists_digit_of_readNumber isRead
  have noInfinity : (first :: others).head? ≠ some 'I' := by
    intro isInfinity
    rw [Option.some.inj isInfinity] at isDigit
    exact absurd isDigit (by decide)
  rw [readBare, readName?_eq_none (by decide) fun _ => noInfinity]
  exact isRead

/-! ### Scalars -/

theorem readBare_integer {value : Int} {written rest : Text} (isWritten : writeInteger value = .ok written)
    (ends : EndsNumber rest) : readBare (written ++ rest) = .ok (.integer value, rest) := by
  rw [writeInteger] at isWritten
  split at isWritten
  · next short =>
    obtain rfl := Except.ok.inj isWritten
    cases value with
    | ofNat number => exact readBare_of_readNumber (readNumber_decimal false short ends)
    | negSucc number => exact readBare_minus (readNumber_decimal true short ends)
  · cases isWritten

theorem readBare_double {value : Double} (isProper : value.IsProper) {rest : Text}
    (ends : EndsNumber rest) :
    readBare (value.text specialNames ++ rest) = .ok (.double value, rest) := by
  cases value with
  | finite isNegative magnitude =>
    have isRead := readNumber_magnitudeText isNegative isProper ends
    cases isNegative with
    | false => exact readBare_of_readNumber isRead
    | true => exact readBare_minus isRead
  | infinite isNegative => cases isNegative <;> rfl
  | notANumber => rfl

/-- A scalar that is no text reads back as it was written. -/
theorem readBare_scalarText {value : Scalar} (noText : ∀ text, value ≠ .text text)
    (isProper : value.IsProper) {written rest : Text} (isWritten : scalarText value = .ok written)
    (ends : EndsNumber rest) : readBare (written ++ rest) = .ok (value, rest) := by
  cases value with
  | null =>
    obtain rfl := Except.ok.inj isWritten
    rfl
  | boolean value =>
    cases value <;>
    · obtain rfl := Except.ok.inj isWritten
      rfl
  | integer value => exact readBare_integer isWritten ends
  | double value =>
    obtain rfl := Except.ok.inj isWritten
    exact readBare_double isProper ends
  | text value => exact absurd rfl (noText value)
  | bytes _ => exact isProper.elim
  | date _ => exact isProper.elim
  | moment _ => exact isProper.elim

end Json

end RadioCall
