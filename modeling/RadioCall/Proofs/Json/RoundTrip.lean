/-
This file proves that documents read back from JSON, on one line or over several. The proof
goes by the parts of a document: a part is read up to the comma or bracket behind it, and the
space between the parts is passed over since no part begins with space. Reading takes at most
two steps for each character, as every part and every comma takes one.
-/

import RadioCall.Proofs.Document.Keys
import RadioCall.Proofs.Json.Parts
import RadioCall.Proofs.Json.Text

namespace RadioCall

/-- Whether a document is one that JSON can hold: its doubles are proper, and the keys of its
mappings are texts, each of which stands once. -/
inductive Document.IsJson : Document → Prop
  | scalar {value : Scalar} (isProper : value.IsProper) : IsJson (scalar value)
  | list {items : List Document} (areJson : ∀ item ∈ items, IsJson item) : IsJson (list items)
  | mapping {entries : List (Scalar × Document)} (areFields : AreFields entries)
      (areJson : ∀ entry ∈ entries, IsJson entry.2) : IsJson (mapping entries)

namespace Json

/-! ### Space between parts -/

theorem skipSpace_append {gap : Text} (isGap : ∀ character ∈ gap, isSpace character) (rest : Text) :
    skipSpace (gap ++ rest) = skipSpace rest :=
  List.dropWhile_append_of_pos isGap

theorem isSpace_lineBreak (level : Level) : ∀ character ∈ level.lineBreak, isSpace character := by
  cases level with
  | none => exact nofun
  | some depth =>
    refine List.forall_mem_cons.mpr ⟨rfl, fun character member => ?_⟩
    rw [List.eq_of_mem_replicate member]
    rfl

/-- What stands between two parts is a comma and space. -/
theorem exists_separator_eq (level : Level) :
    ∃ gap, level.separator = ',' :: gap ∧ ∀ character ∈ gap, isSpace character := by
  cases level with
  | none => exact ⟨[' '], rfl, List.forall_mem_singleton.mpr rfl⟩
  | some depth => exact ⟨Level.lineBreak (some depth), rfl, isSpace_lineBreak _⟩

theorem endsNumber_separator (level : Level) (rest : Text) :
    EndsNumber (level.separator ++ rest) := by
  obtain ⟨gap, isSeparator, -⟩ := exists_separator_eq level
  rw [isSeparator]
  exact forall_head?_cons (by decide) _

/-- Whether a character closes a list or a mapping. -/
def IsClosing (closing : Char) : Prop :=
  closing = ']' ∨ closing = closingBrace

section Closing

variable {closing : Char} {gap : Text}

theorem endsNumber_closing (isClosing : IsClosing closing)
    (isGap : ∀ character ∈ gap, isSpace character) (rest : Text) :
    EndsNumber (gap ++ closing :: rest) := by
  cases gap with
  | nil => rcases isClosing with rfl | rfl <;> exact forall_head?_cons (by decide) rest
  | cons first others =>
    have isSpace := isGap first List.mem_cons_self
    simp only [Json.isSpace, Bool.or_eq_true, decide_eq_true_eq] at isSpace
    rcases isSpace with ((rfl | rfl) | rfl) | rfl <;> exact forall_head?_cons (by decide) _

theorem readContinuation_closing (isClosing : IsClosing closing)
    (isGap : ∀ character ∈ gap, isSpace character) (rest : Text) :
    readContinuation closing (gap ++ closing :: rest) = .ok (.done rest) := by
  rw [readContinuation, skipSpace_append isGap]
  rcases isClosing with rfl | rfl <;> rfl

theorem readContinuation_separator (closing : Char) (level : Level) {rest : Text}
    (begins : skipSpace rest = rest) :
    readContinuation closing (level.separator ++ rest) = .ok (.more rest) := by
  obtain ⟨between, isSeparator, isGap⟩ := exists_separator_eq level
  have noSpace : skipSpace (',' :: between ++ rest) = ',' :: (between ++ rest) := rfl
  rw [isSeparator, readContinuation, noSpace]
  simp only
  rw [if_pos trivial, skipSpace_append isGap, begins]

end Closing

theorem intercalate_cons (separator first second : Text) (others : List Text) :
    separator.intercalate (first :: second :: others) =
      first ++ (separator ++ separator.intercalate (second :: others)) := by
  simp [List.intercalate]

/-! ### Written parts -/

/-- A scalar is read as it was written, unless it is a text in a place for other values. -/
theorem readValue_scalarLiteral {value : Scalar} (isProper : value.IsProper) {written rest : Text}
    (isWritten : scalarLiteral value = .ok written) (ends : EndsNumber rest) (steps levels : Nat) :
    readValue (steps + 1) levels (written ++ rest) = .ok (.scalar value, rest) := by
  refine readValue_eq_ok_iff.mpr ?_
  by_cases isText : ∃ text, value = .text text
  · obtain ⟨text, rfl⟩ := isText
    obtain rfl := Except.ok.inj isWritten
    have opened : textLiteral text ++ rest =
        doubleQuote :: (text.flatMap escapedCharacter ++ doubleQuote :: rest) := by
      simp [textLiteral]
    rw [opened]
    exact .text (readText_flatMap text rest)
  · have noText : ∀ text, value ≠ .text text := fun text same => isText ⟨text, same⟩
    have isScalar : scalarText value = .ok written := by
      cases value with
      | text text => exact absurd rfl (noText text)
      | _ => exact isWritten
    exact .bare (readBare_scalarText noText isProper isScalar ends)

/-- A key is read as it was written, and so is the colon behind it. -/
theorem readKey_keyLiteral (name : Text) {value : Text} (begins : skipSpace value = value) :
    (openKey (textLiteral name ++ ([':', ' '] ++ value)) >>= readText) =
        .ok (name, ':' :: ' ' :: value) ∧
      readColon (':' :: ' ' :: value) = .ok value := by
  have opened : textLiteral name ++ ([':', ' '] ++ value) =
      doubleQuote :: (name.flatMap escapedCharacter ++ doubleQuote :: ':' :: ' ' :: value) := by
    simp [textLiteral]
  constructor
  · rw [opened]
    exact readText_flatMap name _
  · rw [readColon]
    exact congrArg Except.ok begins

theorem writeItems_cons_eq_ok_iff {level : Level} {item : Document} {others : List Document}
    {texts : List Text} :
    writeItems level (item :: others) = .ok texts ↔
      ∃ first more, write level item = .ok first ∧ writeItems level others = .ok more ∧
        texts = first :: more := by
  rw [writeItems]
  constructor
  · intro areWritten
    obtain ⟨first, isFirst, areWritten⟩ := bind_eq_ok_iff.mp areWritten
    obtain ⟨more, areMore, areWritten⟩ := bind_eq_ok_iff.mp areWritten
    exact ⟨first, more, isFirst, areMore, (Except.ok.inj areWritten).symm⟩
  · rintro ⟨first, more, isFirst, areMore, rfl⟩
    exact bind_eq_ok_iff.mpr ⟨_, isFirst, bind_eq_ok_iff.mpr ⟨_, areMore, rfl⟩⟩

theorem writeEntries_cons_eq_ok_iff {level : Level} {name : Text} {value : Document}
    {others : List (Scalar × Document)} {texts : List Text} :
    writeEntries level ((.text name, value) :: others) = .ok texts ↔
      ∃ first more, write level value = .ok first ∧ writeEntries level others = .ok more ∧
        texts = (textLiteral name ++ [':', ' '] ++ first) :: more := by
  rw [writeEntries]
  constructor
  · intro areWritten
    obtain ⟨key, isKey, areWritten⟩ := bind_eq_ok_iff.mp areWritten
    obtain ⟨first, isFirst, areWritten⟩ := bind_eq_ok_iff.mp areWritten
    obtain ⟨more, areMore, areWritten⟩ := bind_eq_ok_iff.mp areWritten
    obtain rfl := Except.ok.inj isKey
    exact ⟨first, more, isFirst, areMore, (Except.ok.inj areWritten).symm⟩
  · rintro ⟨first, more, isFirst, areMore, rfl⟩
    exact bind_eq_ok_iff.mpr ⟨_, rfl, bind_eq_ok_iff.mpr ⟨_, isFirst,
      bind_eq_ok_iff.mpr ⟨_, areMore, rfl⟩⟩⟩

theorem writeItems_ne_nil {level : Level} {items : List Document} {texts : List Text}
    (areWritten : writeItems level items = .ok texts) (nonempty : items ≠ []) : texts ≠ [] := by
  obtain ⟨item, others, rfl⟩ := List.exists_cons_of_ne_nil nonempty
  obtain ⟨first, more, -, -, rfl⟩ := writeItems_cons_eq_ok_iff.mp areWritten
  exact List.cons_ne_nil first more

theorem writeEntries_ne_nil {level : Level} {entries : List (Scalar × Document)}
    {texts : List Text} (areTexts : HaveTextKeys entries)
    (areWritten : writeEntries level entries = .ok texts) (nonempty : entries ≠ []) :
    texts ≠ [] := by
  obtain ⟨⟨key, value⟩, others, rfl⟩ := List.exists_cons_of_ne_nil nonempty
  obtain ⟨name, isText⟩ := areTexts _ List.mem_cons_self
  obtain rfl : key = .text name := isText
  obtain ⟨first, more, -, -, rfl⟩ := writeEntries_cons_eq_ok_iff.mp areWritten
  exact List.cons_ne_nil _ more

/-- The parts of a list or mapping stand between its brackets, with space on both sides. -/
theorem bracketed_append (level : Level) (opening closing : Char) {parts : List Text}
    (nonempty : parts ≠ []) (rest : Text) :
    bracketed level [opening] [closing] parts ++ rest =
      opening :: (level.deeper.lineBreak ++ (level.deeper.separator.intercalate parts ++
        (level.lineBreak ++ closing :: rest))) := by
  rw [bracketed, if_neg (by simpa using nonempty)]
  simp

theorem length_bracketed (level : Level) (opening closing : Char) {parts : List Text}
    (nonempty : parts ≠ []) :
    (level.deeper.separator.intercalate parts).length + 2 ≤
      (bracketed level [opening] [closing] parts).length := by
  have set := congrArg List.length (bracketed_append level opening closing nonempty [])
  rw [List.append_nil] at set
  simp only [List.length_cons, List.length_append, List.length_nil] at set
  omega

theorem write_mapping (level : Level) (entries : List (Scalar × Document)) :
    write level (.mapping entries) =
      bracketed level [openingBrace] [closingBrace] <$> writeEntries level.deeper entries := by
  rw [write]
  cases writeEntries level.deeper entries <;> rfl

/-! ### Documents -/

mutual

/-- A document is read as it was written, nested as deep as it is. -/
theorem readValue_write (document : Document) (isJson : document.IsJson) {level : Level}
    {written rest : Text} {steps levels : Nat} (isWritten : write level document = .ok written)
    (shallow : document.depth ≤ levels) (enough : 2 * written.length + 1 ≤ steps)
    (ends : EndsNumber rest) :
    readValue steps levels (written ++ rest) = .ok (document, rest) := by
  obtain ⟨fewer, rfl⟩ : ∃ fewer, steps = fewer + 1 := ⟨steps - 1, by omega⟩
  cases document with
  | scalar value =>
    cases isJson with
    | scalar isProper =>
      rw [write] at isWritten
      exact readValue_scalarLiteral isProper isWritten ends fewer levels
  | list items =>
    cases isJson with
    | list areJson =>
      rw [write] at isWritten
      obtain ⟨texts, areWritten, isSet⟩ := bind_eq_ok_iff.mp isWritten
      obtain rfl := Except.ok.inj isSet
      rw [Document.depth] at shallow
      obtain ⟨below, rfl⟩ : ∃ below, levels = below + 1 := ⟨levels - 1, by omega⟩
      refine readValue_eq_ok_iff.mpr ?_
      by_cases empty : items = []
      · subst empty
        obtain rfl := Except.ok.inj areWritten
        exact .emptyList rfl rfl
      · have nonempty := writeItems_ne_nil areWritten empty
        have long := length_bracketed level '[' ']' nonempty
        have areItems : readItems fewer below _ = .ok (items, rest) :=
          readItems_write items empty areJson areWritten (Nat.le_of_succ_le_succ shallow)
            (by omega) (isSpace_lineBreak level) rest
        rw [bracketed_append level '[' ']' nonempty]
        refine .list rfl ?_
        rw [skipSpace_append (isSpace_lineBreak level.deeper),
          (beginsValue_of_readItems areItems).skipSpace_eq]
        exact areItems
  | mapping entries =>
    cases isJson with
    | mapping areFields areJson =>
      rw [write_mapping] at isWritten
      obtain ⟨texts, areWritten, rfl⟩ := map_eq_ok_iff.mp isWritten
      rw [Document.depth] at shallow
      obtain ⟨below, rfl⟩ : ∃ below, levels = below + 1 := ⟨levels - 1, by omega⟩
      refine readValue_eq_ok_iff.mpr ?_
      by_cases empty : entries = []
      · subst empty
        obtain rfl := Except.ok.inj areWritten
        exact .emptyMapping rfl rfl
      · have nonempty := writeEntries_ne_nil areFields.haveTextKeys areWritten empty
        have long := length_bracketed level openingBrace closingBrace nonempty
        have areEntries : readEntries fewer below _ = .ok (entries, rest) :=
          readEntries_write entries empty areFields.haveTextKeys areJson areWritten
            (Nat.le_of_succ_le_succ shallow) (by omega) (isSpace_lineBreak level) rest
        obtain ⟨others, isKey⟩ := exists_eq_of_readEntries areEntries
        rw [bracketed_append level openingBrace closingBrace nonempty, ← areFields.ofEntries_eq]
        refine .mapping rfl ?_
        rw [isKey] at areEntries
        rw [skipSpace_append (isSpace_lineBreak level.deeper), isKey]
        exact areEntries
  | set _ => cases isJson
  | pair _ _ => cases isJson

/-- Items are read as they were written, up to the bracket behind them. -/
theorem readItems_write (items : List Document) (nonempty : items ≠ [])
    (areJson : ∀ item ∈ items, item.IsJson) {level : Level} {texts : List Text} {gap : Text}
    {steps levels : Nat} (areWritten : writeItems level items = .ok texts)
    (shallow : Document.itemsDepth items ≤ levels)
    (enough : 2 * (level.separator.intercalate texts).length + 2 ≤ steps)
    (isGap : ∀ character ∈ gap, isSpace character) (rest : Text) :
    readItems steps levels (level.separator.intercalate texts ++ (gap ++ ']' :: rest)) =
      .ok (items, rest) := by
  obtain ⟨fewer, rfl⟩ : ∃ fewer, steps = fewer + 1 := ⟨steps - 1, by omega⟩
  cases items with
  | nil => exact absurd rfl nonempty
  | cons item others =>
    obtain ⟨isJson, othersJson⟩ := List.forall_mem_cons.mp areJson
    obtain ⟨first, more, isFirst, areMore, rfl⟩ := writeItems_cons_eq_ok_iff.mp areWritten
    rw [Document.itemsDepth] at shallow
    obtain ⟨itemShallow, othersShallow⟩ := max_le_iff.mp shallow
    refine readItems_eq_ok_iff.mpr ?_
    by_cases single : others = []
    · subst single
      obtain rfl := Except.ok.inj areMore
      rw [show level.separator.intercalate [first] = first by simp [List.intercalate]] at *
      exact ⟨item, _, readValue_write item isJson isFirst itemShallow (by omega)
        (endsNumber_closing (.inl rfl) isGap rest),
        .inl ⟨readContinuation_closing (.inl rfl) isGap rest, rfl⟩⟩
    · obtain ⟨second, later, rfl⟩ := List.exists_cons_of_ne_nil (writeItems_ne_nil areMore single)
      rw [intercalate_cons] at *
      obtain ⟨gapBetween, isSeparator, -⟩ := exists_separator_eq level
      have length := congrArg List.length isSeparator
      simp only [List.length_append, List.length_cons] at enough length
      have areOthers : readItems fewer levels _ = .ok (others, rest) :=
        readItems_write others single othersJson areMore othersShallow (by omega) isGap rest
      have isItem := readValue_write item isJson isFirst itemShallow (by omega : _ ≤ fewer)
        (endsNumber_separator level (level.separator.intercalate (second :: later) ++
          (gap ++ ']' :: rest)))
      refine ⟨item, _, ?_, .inr ⟨_, others, readContinuation_separator ']' level
        (beginsValue_of_readItems areOthers).skipSpace_eq, areOthers, rfl⟩⟩
      rw [List.append_assoc, List.append_assoc]
      exact isItem

/-- Entries are read as they were written, up to the bracket behind them. -/
theorem readEntries_write (entries : List (Scalar × Document)) (nonempty : entries ≠ [])
    (areTexts : HaveTextKeys entries) (areJson : ∀ entry ∈ entries, entry.2.IsJson)
    {level : Level} {texts : List Text} {gap : Text} {steps levels : Nat}
    (areWritten : writeEntries level entries = .ok texts)
    (shallow : Document.entriesDepth entries ≤ levels)
    (enough : 2 * (level.separator.intercalate texts).length + 2 ≤ steps)
    (isGap : ∀ character ∈ gap, isSpace character) (rest : Text) :
    readEntries steps levels
        (level.separator.intercalate texts ++ (gap ++ closingBrace :: rest)) =
      .ok (entries, rest) := by
  obtain ⟨fewer, rfl⟩ : ∃ fewer, steps = fewer + 1 := ⟨steps - 1, by omega⟩
  cases entries with
  | nil => exact absurd rfl nonempty
  | cons entry others =>
    obtain ⟨key, value⟩ := entry
    obtain ⟨⟨name, isText⟩, othersTexts⟩ := List.forall_mem_cons.mp areTexts
    obtain rfl : key = .text name := isText
    obtain ⟨isJson, othersJson⟩ := List.forall_mem_cons.mp areJson
    obtain ⟨first, more, isFirst, areMore, rfl⟩ := writeEntries_cons_eq_ok_iff.mp areWritten
    rw [Document.entriesDepth] at shallow
    obtain ⟨valueShallow, othersShallow⟩ := max_le_iff.mp shallow
    refine readEntries_eq_ok_iff.mpr ?_
    by_cases single : others = []
    · subst single
      obtain rfl := Except.ok.inj areMore
      rw [show level.separator.intercalate [textLiteral name ++ [':', ' '] ++ first] =
        textLiteral name ++ [':', ' '] ++ first by simp [List.intercalate]] at *
      simp only [List.length_append] at enough
      have isValue := readValue_write value isJson isFirst valueShallow (by omega : _ ≤ fewer)
        (endsNumber_closing (.inr rfl) isGap rest)
      obtain ⟨isKey, isColon⟩ := readKey_keyLiteral name
        (beginsValue_of_readValue isValue).skipSpace_eq
      refine ⟨name, _, _, value, _, ?_, isColon, isValue,
        .inl ⟨readContinuation_closing (.inr rfl) isGap rest, rfl⟩⟩
      rw [List.append_assoc, List.append_assoc]
      exact isKey
    · obtain ⟨second, later, rfl⟩ :=
        List.exists_cons_of_ne_nil (writeEntries_ne_nil othersTexts areMore single)
      rw [intercalate_cons] at *
      obtain ⟨gapBetween, isSeparator, -⟩ := exists_separator_eq level
      have length := congrArg List.length isSeparator
      simp only [List.length_append, List.length_cons] at enough length
      have areOthers : readEntries fewer levels _ = .ok (others, rest) :=
        readEntries_write others single othersTexts othersJson areMore othersShallow (by omega)
          isGap rest
      obtain ⟨afterQuote, isQuote⟩ := exists_eq_of_readEntries areOthers
      have begins := congrArg skipSpace isQuote
      have isValue := readValue_write value isJson isFirst valueShallow (by omega : _ ≤ fewer)
        (endsNumber_separator level (level.separator.intercalate (second :: later) ++
          (gap ++ closingBrace :: rest)))
      obtain ⟨isKey, isColon⟩ := readKey_keyLiteral name
        (beginsValue_of_readValue isValue).skipSpace_eq
      refine ⟨name, _, _, value, _, ?_, isColon, isValue, .inr ⟨_, others,
        readContinuation_separator closingBrace level (begins.trans isQuote.symm), areOthers, rfl⟩⟩
      simp only [List.append_assoc]
      exact isKey

end

/-- A document that is written reads back, if it is one of JSON and no deeper than may be
read. -/
theorem read_write {document : Document} (isJson : document.IsJson)
    (shallow : document.depth ≤ nestingLimit) {level : Level} {written : Text}
    (isWritten : write level document = .ok written) : read written = .ok document := by
  have isRead : readValue (2 * written.length + 2) nestingLimit (written ++ []) =
      .ok (document, []) :=
    readValue_write document isJson isWritten shallow (by omega) nofun
  rw [List.append_nil] at isRead
  rw [read, (beginsValue_of_readValue isRead).skipSpace_eq]
  exact bind_eq_ok_iff.mpr ⟨_, isRead, rfl⟩

end Json

end RadioCall
