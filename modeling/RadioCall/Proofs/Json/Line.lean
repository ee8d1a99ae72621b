/-
This file shows that a document written on one line stays on it. Whatever its texts hold, it is
written in visible plain characters, none of which ends a line. So lines of documents, each with a
line feed behind it, are cut apart again exactly where they were put together.
-/

import RadioCall.Proofs.Json.RoundTrip
import RadioCall.Text.Lines

namespace RadioCall

/-! ### Visible characters -/

/-- Whether a character is one of the visible plain characters, the space among them. -/
def IsVisible (character : Char) : Prop :=
  0x20 ≤ character.toNat ∧ character.toNat ≤ 0x7e

instance (character : Char) : Decidable (IsVisible character) :=
  inferInstanceAs (Decidable (_ ∧ _))

/-- Whether a text is written in visible characters. -/
def IsVisibleText (text : Text) : Prop :=
  ∀ character ∈ text, IsVisible character

instance (text : Text) : Decidable (IsVisibleText text) :=
  List.decidableBAll IsVisible text

namespace IsVisibleText

theorem append {first second : Text} (isFirst : IsVisibleText first)
    (isSecond : IsVisibleText second) : IsVisibleText (first ++ second) :=
  List.forall_mem_append.mpr ⟨isFirst, isSecond⟩

theorem cons {character : Char} {text : Text} (isVisible : IsVisible character)
    (isText : IsVisibleText text) : IsVisibleText (character :: text) :=
  List.forall_mem_cons.mpr ⟨isVisible, isText⟩

theorem of_subset {text other : Text} (isText : IsVisibleText text) (subset : other ⊆ text) :
    IsVisibleText other :=
  fun character member => isText character (subset member)

theorem replicate {character : Char} (isVisible : IsVisible character) (count : Nat) :
    IsVisibleText (List.replicate count character) := by
  intro other member
  rw [List.eq_of_mem_replicate member]
  exact isVisible

theorem intercalate {separator : Text} (isSeparator : IsVisibleText separator) {parts : List Text}
    (areParts : ∀ part ∈ parts, IsVisibleText part) :
    IsVisibleText (separator.intercalate parts) := by
  induction parts with
  | nil => exact nofun
  | cons part rest ih =>
    obtain ⟨isPart, areRest⟩ := List.forall_mem_cons.mp areParts
    cases rest with
    | nil => simpa [List.intercalate] using isPart
    | cons second others =>
      rw [Json.intercalate_cons]
      exact isPart.append (isSeparator.append (ih areRest))

end IsVisibleText

/-! ### Numbers -/

theorem isVisibleText_decimal (number : Nat) : IsVisibleText (decimal number) :=
  forall_mem_decimal (by decide) number

theorem isVisibleText_signedDecimal (number : Int) : IsVisibleText (signedDecimal number) := by
  cases number with
  | ofNat number => exact isVisibleText_decimal number
  | negSucc number => exact .cons (by decide) (isVisibleText_decimal (number + 1))

namespace Double

theorem isVisibleText_dropTrailingZeros {digits : Text} (areVisible : IsVisibleText digits) :
    IsVisibleText (dropTrailingZeros digits) := by
  refine areVisible.of_subset fun character member => ?_
  rw [dropTrailingZeros, List.mem_reverse] at member
  exact List.mem_reverse.mp ((List.dropWhile_sublist _).subset member)

theorem isVisibleText_exponentText (exponent : Int) : IsVisibleText (exponentText exponent) := by
  have digits := isVisibleText_decimal exponent.natAbs
  refine .cons (by decide) (.cons ?_ ?_)
  · split <;> decide
  · split
    · exact .cons (by decide) digits
    · exact digits

theorem isVisibleText_layout {digits : Text} (areVisible : IsVisibleText digits) (exponent : Int) :
    IsVisibleText (layout digits exponent) := by
  have zeros (count : Nat) : IsVisibleText (List.replicate count '0') :=
    .replicate (by decide) count
  have isExponent := isVisibleText_exponentText exponent
  unfold layout
  split
  · split
    · next first second others =>
      obtain ⟨isFirst, isRest⟩ := List.forall_mem_cons.mp areVisible
      exact IsVisibleText.append (.cons isFirst (.cons (by decide) isRest)) isExponent
    · exact areVisible.append isExponent
  · split
    · exact IsVisibleText.append (.cons (by decide) (.cons (by decide) (zeros _))) areVisible
    · have whole := areVisible.of_subset (List.take_subset (exponent.toNat + 1) digits)
      have fraction := areVisible.of_subset (List.drop_subset (exponent.toNat + 1) digits)
      refine (whole.append (zeros _)).append (.cons (by decide) ?_)
      split
      · decide
      · exact fraction

theorem isVisibleText_magnitudeText (magnitude : Nat) :
    IsVisibleText (magnitudeText magnitude) := by
  unfold magnitudeText
  split
  · decide
  · exact isVisibleText_layout (isVisibleText_dropTrailingZeros (isVisibleText_decimal _)) _

theorem isVisibleText_text (value : Double) : IsVisibleText (value.text Json.specialNames) := by
  have sign (isNegative : Bool) : IsVisibleText (if isNegative then ['-'] else []) := by
    cases isNegative <;> decide
  cases value with
  | finite isNegative magnitude =>
    exact (sign isNegative).append (isVisibleText_magnitudeText magnitude)
  | infinite isNegative => exact (sign isNegative).append (by decide)
  | notANumber => decide

end Double

namespace Json

/-! ### Documents -/

theorem isVisibleText_hexadecimal (count value : Nat) :
    IsVisibleText (hexadecimal count value) := by
  have digit : ∀ index < 16, IsVisible (hexDigits.getD index '0') := by decide
  induction count generalizing value with
  | zero => exact nofun
  | succ count ih =>
    exact (ih (value / 16)).append
      (.cons (digit _ (Nat.mod_lt value (by decide))) nofun)

/-- A character is written in visible characters, whatever it is. -/
theorem isVisibleText_escapedCharacter (character : Char) :
    IsVisibleText (escapedCharacter character) := by
  have isEscape (unit : Nat) : IsVisibleText (unitEscape unit) :=
    .cons (by decide) (.cons (by decide) (isVisibleText_hexadecimal 4 unit))
  unfold escapedCharacter
  split_ifs with mark lineFeed carriage tab back page visible unit
  · rcases mark with rfl | rfl <;> decide
  · decide
  · decide
  · decide
  · decide
  · decide
  · exact .cons visible nofun
  · exact isEscape _
  · exact (isEscape _).append (isEscape _)

theorem isVisibleText_textLiteral (value : Text) : IsVisibleText (textLiteral value) := by
  refine IsVisibleText.append (.cons (by decide) fun character member => ?_) (by decide)
  obtain ⟨source, -, inEscaped⟩ := List.mem_flatMap.mp member
  exact isVisibleText_escapedCharacter source character inEscaped

theorem isVisibleText_scalarLiteral {value : Scalar} {written : Text}
    (isWritten : scalarLiteral value = .ok written) : IsVisibleText written := by
  cases value with
  | null =>
    obtain rfl := Except.ok.inj isWritten
    decide
  | boolean value =>
    cases value <;>
    · obtain rfl := Except.ok.inj isWritten
      decide
  | integer value =>
    simp only [scalarLiteral, scalarText, writeInteger] at isWritten
    split at isWritten
    · obtain rfl := Except.ok.inj isWritten
      exact isVisibleText_signedDecimal value
    · cases isWritten
  | double value =>
    obtain rfl := Except.ok.inj isWritten
    exact value.isVisibleText_text
  | text value =>
    obtain rfl := Except.ok.inj isWritten
    exact isVisibleText_textLiteral value
  | bytes _ => cases isWritten
  | date _ => cases isWritten
  | moment _ => cases isWritten

theorem isVisibleText_keyLiteral {key : Scalar} {written : Text}
    (isWritten : keyLiteral key = .ok written) : IsVisibleText written := by
  obtain ⟨text, -, rfl⟩ := map_eq_ok_iff.mp isWritten
  exact isVisibleText_textLiteral text

theorem isVisibleText_bracketed {opening closing : Text} (isOpening : IsVisibleText opening)
    (isClosing : IsVisibleText closing) {parts : List Text}
    (areParts : ∀ part ∈ parts, IsVisibleText part) :
    IsVisibleText (bracketed none opening closing parts) := by
  have noBreak : IsVisibleText (Level.lineBreak none) := nofun
  have isSeparator : IsVisibleText (Level.separator none) := by decide
  unfold bracketed
  split
  · exact isOpening.append isClosing
  · exact (((isOpening.append noBreak).append (isSeparator.intercalate areParts)).append
      noBreak).append isClosing

mutual

/-- A document on one line is written in visible characters. -/
theorem isVisibleText_write (document : Document) {written : Text}
    (isWritten : write none document = .ok written) : IsVisibleText written := by
  cases document with
  | scalar value =>
    rw [write] at isWritten
    exact isVisibleText_scalarLiteral isWritten
  | list items =>
    rw [write] at isWritten
    obtain ⟨texts, areWritten, isSet⟩ := bind_eq_ok_iff.mp isWritten
    obtain rfl := Except.ok.inj isSet
    exact isVisibleText_bracketed (by decide) (by decide)
      (isVisibleText_writeItems items areWritten)
  | mapping entries =>
    rw [write_mapping] at isWritten
    obtain ⟨texts, areWritten, rfl⟩ := map_eq_ok_iff.mp isWritten
    exact isVisibleText_bracketed (by decide) (by decide)
      (isVisibleText_writeEntries entries areWritten)
  | set items =>
    rw [write] at isWritten
    cases isWritten
  | pair first second =>
    rw [write] at isWritten
    obtain ⟨firstWritten, isFirst, isWritten⟩ := bind_eq_ok_iff.mp isWritten
    obtain ⟨secondWritten, isSecond, isSet⟩ := bind_eq_ok_iff.mp isWritten
    obtain rfl := Except.ok.inj isSet
    exact isVisibleText_bracketed (by decide) (by decide) (List.forall_mem_cons.mpr
      ⟨isVisibleText_write first isFirst,
        List.forall_mem_singleton.mpr (isVisibleText_write second isSecond)⟩)

theorem isVisibleText_writeItems (items : List Document) {texts : List Text}
    (areWritten : writeItems none items = .ok texts) : ∀ text ∈ texts, IsVisibleText text := by
  cases items with
  | nil =>
    obtain rfl := Except.ok.inj areWritten
    exact nofun
  | cons item rest =>
    obtain ⟨first, more, isFirst, areMore, rfl⟩ := writeItems_cons_eq_ok_iff.mp areWritten
    exact List.forall_mem_cons.mpr
      ⟨isVisibleText_write item isFirst, isVisibleText_writeItems rest areMore⟩

theorem isVisibleText_writeEntries (entries : List (Scalar × Document)) {texts : List Text}
    (areWritten : writeEntries none entries = .ok texts) : ∀ text ∈ texts, IsVisibleText text := by
  cases entries with
  | nil =>
    obtain rfl := Except.ok.inj areWritten
    exact nofun
  | cons entry rest =>
    obtain ⟨key, value⟩ := entry
    rw [writeEntries] at areWritten
    obtain ⟨name, isName, areWritten⟩ := bind_eq_ok_iff.mp areWritten
    obtain ⟨first, isFirst, areWritten⟩ := bind_eq_ok_iff.mp areWritten
    obtain ⟨more, areMore, areSet⟩ := bind_eq_ok_iff.mp areWritten
    obtain rfl := Except.ok.inj areSet
    have isColon : IsVisibleText [':', ' '] := by decide
    have isEntry := ((isVisibleText_keyLiteral isName).append isColon).append
      (isVisibleText_write value isFirst)
    exact List.forall_mem_cons.mpr ⟨isEntry, isVisibleText_writeEntries rest areMore⟩

end

end Json

/-! ### Lines -/

theorem not_isLineEnd_of_isVisible {character : Char} (isVisible : IsVisible character) :
    ¬isLineEnd character := by
  intro covered
  obtain ⟨range, inTable, fromFirst, toLast⟩ := CodeTable.exists_range_of_covers covered
  obtain ⟨fromSpace, toTilde⟩ := isVisible
  simp only [lineEndTable, List.mem_cons, List.not_mem_nil, or_false] at inTable
  rcases inTable with rfl | rfl | rfl | rfl <;> simp only at fromFirst toLast <;> omega

theorem plainLineEnds_of_notMem {text : Text} (noReturn : '\r' ∉ text) :
    plainLineEnds false text = text := by
  induction text with
  | nil => rfl
  | cons character rest ih =>
    obtain ⟨isOther, restOther⟩ := not_or.mp (mt List.mem_cons.mpr noReturn)
    rw [plainLineEnds, if_neg (Ne.symm isOther), Bool.and_false, if_neg Bool.false_ne_true,
      ih restOther]

theorem linesFrom_append_lineFeed {text : Text} (isVisible : IsVisibleText text)
    (line rest : Text) :
    linesFrom line (text ++ '\n' :: rest) = (line.reverse ++ text) :: linesFrom [] rest := by
  induction text generalizing line with
  | nil =>
    rw [List.nil_append, linesFrom, if_pos (by decide), List.append_nil]
  | cons character others ih =>
    obtain ⟨isFirst, areOthers⟩ := List.forall_mem_cons.mp isVisible
    rw [List.cons_append, linesFrom, if_neg (not_isLineEnd_of_isVisible isFirst), ih areOthers]
    simp

/-- Visible texts that are put on lines of their own are the lines. -/
theorem lines_flatMap {texts : List Text} (areVisible : ∀ text ∈ texts, IsVisibleText text) :
    lines (texts.flatMap (· ++ ['\n'])) = texts := by
  have noReturn : '\r' ∉ texts.flatMap (· ++ ['\n']) := by
    intro member
    obtain ⟨text, inTexts, inLine⟩ := List.mem_flatMap.mp member
    rcases List.mem_append.mp inLine with inText | isLineFeed
    · exact absurd (areVisible text inTexts _ inText) (by decide)
    · exact absurd isLineFeed (by decide)
  rw [lines, plainLineEnds_of_notMem noReturn]
  clear noReturn
  induction texts with
  | nil => rfl
  | cons text rest ih =>
    obtain ⟨isText, areRest⟩ := List.forall_mem_cons.mp areVisible
    rw [List.flatMap_cons, List.append_assoc, List.singleton_append,
      linesFrom_append_lineFeed isText, ih areRest]
    rfl

end RadioCall
