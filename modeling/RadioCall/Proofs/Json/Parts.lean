/-
This file takes the reading of JSON apart. A value is a text, a list, a mapping, or a name or
number, and its first character tells which; none of them begins with space or with the bracket
that closes a list. Items and entries are read one by one, up to a closing bracket.
-/

import RadioCall.Proofs.Checked
import RadioCall.Proofs.Json.Number

namespace RadioCall

namespace Json

/-! ### First characters -/

/-- Whether a name or a number may begin with a character. -/
def isBareInitial (character : Char) : Bool :=
  nameInitials.contains character || character = '-' || character.isDigit

/-- Whether a text begins as a value may: not with space, and not with the bracket that closes
a list. -/
def BeginsValue (text : Text) : Prop :=
  ∃ first others, text = first :: others ∧ ¬isSpace first ∧ first ≠ ']'

theorem BeginsValue.skipSpace_eq {text : Text} (begins : BeginsValue text) :
    skipSpace text = text := by
  obtain ⟨first, others, rfl, noSpace, -⟩ := begins
  rw [skipSpace, List.dropWhile_cons_of_neg noSpace]

theorem isBareInitial_of_readBare {text : Text} {found : Scalar × Text}
    (isRead : readBare text = .ok found) :
    ∃ first others, text = first :: others ∧ isBareInitial first := by
  cases text with
  | nil => cases isRead
  | cons first others =>
    refine ⟨first, others, rfl, ?_⟩
    rw [isBareInitial, Bool.or_eq_true, Bool.or_eq_true, List.contains_iff_mem, decide_eq_true_iff]
    by_contra! noInitial
    obtain ⟨⟨noName, noMinus⟩, noDigit⟩ := noInitial
    unfold readBare at isRead
    rw [readName?_eq_none noName fun isMinus => absurd isMinus noMinus] at isRead
    simp only at isRead
    split at isRead
    · next isMinus => exact noMinus (List.cons.inj isMinus).1
    · obtain ⟨_, _, same, isDigit⟩ := exists_digit_of_readNumber isRead
      exact noDigit ((List.cons.inj same).1 ▸ isDigit)

theorem beginsValue_of_isBareInitial {first : Char} (isInitial : isBareInitial first)
    (others : Text) : BeginsValue (first :: others) := by
  refine ⟨first, others, rfl, fun isSpace => ?_, ?_⟩
  · simp only [Json.isSpace, Bool.or_eq_true, decide_eq_true_eq] at isSpace
    rcases isSpace with ((rfl | rfl) | rfl) | rfl <;> exact absurd isInitial (by decide)
  · rintro rfl
    exact absurd isInitial (by decide)

/-! ### Values -/

/-- How a value is read in a further step. -/
inductive ReadsValue (steps levels : Nat) : Text → Document → Text → Prop
  | text {after value rest : Text} (isText : readText after = .ok (value, rest)) :
      ReadsValue steps levels (doubleQuote :: after) (.text value) rest
  | emptyList {below : Nat} {after rest : Text} (isDeeper : goDown levels = .ok below)
      (isEmpty : skipSpace after = ']' :: rest) :
      ReadsValue steps levels ('[' :: after) (.list []) rest
  | list {below : Nat} {after rest : Text} {items : List Document}
      (isDeeper : goDown levels = .ok below)
      (areItems : readItems steps below (skipSpace after) = .ok (items, rest)) :
      ReadsValue steps levels ('[' :: after) (.list items) rest
  | emptyMapping {below : Nat} {after rest : Text} (isDeeper : goDown levels = .ok below)
      (isEmpty : skipSpace after = closingBrace :: rest) :
      ReadsValue steps levels (openingBrace :: after) (.mapping []) rest
  | mapping {below : Nat} {after rest : Text} {entries : List (Scalar × Document)}
      (isDeeper : goDown levels = .ok below)
      (areEntries : readEntries steps below (skipSpace after) = .ok (entries, rest)) :
      ReadsValue steps levels (openingBrace :: after) (.ofEntries entries) rest
  | bare {text rest : Text} {value : Scalar} (isBare : readBare text = .ok (value, rest)) :
      ReadsValue steps levels text (.scalar value) rest

theorem goDown_eq_ok_iff {levels below : Nat} : goDown levels = .ok below ↔ levels = below + 1 := by
  cases levels with
  | zero => exact ⟨nofun, nofun⟩
  | succ levels => rw [goDown, Except.ok.injEq, Nat.add_right_cancel_iff]

section Values

variable {steps levels : Nat} {text : Text}

theorem exists_reads_of_readValue {found : Document × Text}
    (isRead : readValue steps levels text = .ok found) :
    ∃ fewer, steps = fewer + 1 ∧ ReadsValue fewer levels text found.1 found.2 := by
  cases steps with
  | zero =>
    rw [readValue] at isRead
    cases isRead
  | succ steps =>
    refine ⟨steps, rfl, ?_⟩
    cases text with
    | nil =>
      rw [readValue] at isRead
      cases isRead
    | cons first others =>
      rw [readValue] at isRead
      split at isRead
      · next isText =>
        obtain ⟨⟨value, rest⟩, isText', isFound⟩ := bind_eq_ok_iff.mp isRead
        obtain rfl := Except.ok.inj isFound
        rw [isText]
        exact .text isText'
      · split at isRead
        · next isList =>
          obtain ⟨below, isDeeper, isRead⟩ := bind_eq_ok_iff.mp isRead
          rw [isList]
          split at isRead
          · next isEmpty =>
            obtain rfl := Except.ok.inj isRead
            exact .emptyList isDeeper isEmpty
          · obtain ⟨⟨items, rest⟩, areItems, isFound⟩ := bind_eq_ok_iff.mp isRead
            obtain rfl := Except.ok.inj isFound
            exact .list isDeeper areItems
        · split at isRead
          · next isMapping =>
            obtain ⟨below, isDeeper, isRead⟩ := bind_eq_ok_iff.mp isRead
            rw [isMapping]
            split at isRead
            · cases isRead
            · next next after isNext =>
              split at isRead
              · next isClosed =>
                obtain rfl := Except.ok.inj isRead
                exact .emptyMapping isDeeper (isClosed ▸ isNext)
              · obtain ⟨⟨entries, rest⟩, areEntries, isFound⟩ := bind_eq_ok_iff.mp isRead
                obtain rfl := Except.ok.inj isFound
                exact .mapping isDeeper (isNext ▸ areEntries)
          · obtain ⟨⟨value, rest⟩, isBare, isFound⟩ := bind_eq_ok_iff.mp isRead
            obtain rfl := Except.ok.inj isFound
            exact .bare isBare

theorem beginsValue_of_readValue {found : Document × Text}
    (isRead : readValue steps levels text = .ok found) : BeginsValue text := by
  obtain ⟨document, rest⟩ := found
  obtain ⟨fewer, -, reads⟩ := exists_reads_of_readValue isRead
  cases reads with
  | text => exact ⟨_, _, rfl, by decide⟩
  | emptyList => exact ⟨_, _, rfl, by decide⟩
  | list => exact ⟨_, _, rfl, by decide⟩
  | emptyMapping => exact ⟨_, _, rfl, by decide⟩
  | mapping => exact ⟨_, _, rfl, by decide⟩
  | bare isBare =>
    obtain ⟨first, others, rfl, isInitial⟩ := isBareInitial_of_readBare isBare
    exact beginsValue_of_isBareInitial isInitial others

end Values

/-! ### Items -/

section Items

variable {steps levels : Nat} {text after : Text} {items : List Document}

/-- The items of a list are the first and those after the comma behind it, if there is one. -/
theorem readItems_eq_ok_iff :
    readItems (steps + 1) levels text = .ok (items, after) ↔
      ∃ item rest, readValue steps levels text = .ok (item, rest) ∧
        (readContinuation ']' rest = .ok (.done after) ∧ items = [item] ∨
          ∃ next others, readContinuation ']' rest = .ok (.more next) ∧
            readItems steps levels next = .ok (others, after) ∧ items = item :: others) := by
  rw [readItems]
  constructor
  · intro isRead
    obtain ⟨⟨item, rest⟩, isItem, isRead⟩ := bind_eq_ok_iff.mp isRead
    obtain ⟨continuation, continues, isRead⟩ := bind_eq_ok_iff.mp isRead
    refine ⟨item, rest, isItem, ?_⟩
    cases continuation with
    | done rest =>
      cases isRead
      exact .inl ⟨continues, rfl⟩
    | more next =>
      obtain ⟨⟨others, rest⟩, areOthers, isFound⟩ := bind_eq_ok_iff.mp isRead
      cases isFound
      exact .inr ⟨next, others, continues, areOthers, rfl⟩
  · rintro ⟨item, rest, isItem, ⟨isDone, rfl⟩ | ⟨next, others, isMore, areOthers, rfl⟩⟩
    · exact bind_eq_ok_iff.mpr ⟨_, isItem, bind_eq_ok_iff.mpr ⟨_, isDone, rfl⟩⟩
    · exact bind_eq_ok_iff.mpr ⟨_, isItem, bind_eq_ok_iff.mpr ⟨_, isMore,
        bind_eq_ok_iff.mpr ⟨_, areOthers, rfl⟩⟩⟩

theorem beginsValue_of_readItems {found : List Document × Text}
    (isRead : readItems steps levels text = .ok found) : BeginsValue text := by
  cases steps with
  | zero =>
    rw [readItems] at isRead
    cases isRead
  | succ steps =>
    obtain ⟨_, _, isItem, -⟩ := readItems_eq_ok_iff.mp isRead
    exact beginsValue_of_readValue isItem

end Items

/-! ### Entries -/

section Entries

variable {steps levels : Nat} {text after : Text} {entries : List (Scalar × Document)}

/-- The entries of a mapping are the first and those after the comma behind it, if there is
one. -/
theorem readEntries_eq_ok_iff :
    readEntries (steps + 1) levels text = .ok (entries, after) ↔
      ∃ name afterName beforeValue value rest,
        (openKey text >>= readText) = .ok (name, afterName) ∧
        readColon afterName = .ok beforeValue ∧
        readValue steps levels beforeValue = .ok (value, rest) ∧
        (readContinuation closingBrace rest = .ok (.done after) ∧ entries = [(.text name, value)] ∨
          ∃ next others, readContinuation closingBrace rest = .ok (.more next) ∧
            readEntries steps levels next = .ok (others, after) ∧
            entries = (.text name, value) :: others) := by
  rw [readEntries]
  constructor
  · intro isRead
    obtain ⟨opened, isOpen, isRead⟩ := bind_eq_ok_iff.mp isRead
    obtain ⟨⟨name, afterName⟩, isName, isRead⟩ := bind_eq_ok_iff.mp isRead
    obtain ⟨beforeValue, isColon, isRead⟩ := bind_eq_ok_iff.mp isRead
    obtain ⟨⟨value, rest⟩, isValue, isRead⟩ := bind_eq_ok_iff.mp isRead
    obtain ⟨continuation, continues, isRead⟩ := bind_eq_ok_iff.mp isRead
    refine ⟨name, afterName, beforeValue, value, rest, bind_eq_ok_iff.mpr ⟨_, isOpen, isName⟩,
      isColon, isValue, ?_⟩
    cases continuation with
    | done rest =>
      cases isRead
      exact .inl ⟨continues, rfl⟩
    | more next =>
      obtain ⟨⟨others, rest⟩, areOthers, isFound⟩ := bind_eq_ok_iff.mp isRead
      cases isFound
      exact .inr ⟨next, others, continues, areOthers, rfl⟩
  · rintro ⟨name, afterName, beforeValue, value, rest, isKey, isColon, isValue, isRest⟩
    obtain ⟨opened, isOpen, isName⟩ := bind_eq_ok_iff.mp isKey
    refine bind_eq_ok_iff.mpr ⟨_, isOpen, bind_eq_ok_iff.mpr ⟨_, isName,
      bind_eq_ok_iff.mpr ⟨_, isColon, bind_eq_ok_iff.mpr ⟨_, isValue, ?_⟩⟩⟩⟩
    rcases isRest with ⟨isDone, rfl⟩ | ⟨next, others, isMore, areOthers, rfl⟩
    · exact bind_eq_ok_iff.mpr ⟨_, isDone, rfl⟩
    · exact bind_eq_ok_iff.mpr ⟨_, isMore, bind_eq_ok_iff.mpr ⟨_, areOthers, rfl⟩⟩

/-- Entries begin with the quote of a key. -/
theorem exists_eq_of_readEntries {found : List (Scalar × Document) × Text}
    (isRead : readEntries steps levels text = .ok found) :
    ∃ others, text = doubleQuote :: others := by
  cases steps with
  | zero =>
    rw [readEntries] at isRead
    cases isRead
  | succ steps =>
    obtain ⟨_, _, _, _, _, isKey, -⟩ := readEntries_eq_ok_iff.mp isRead
    obtain ⟨_, isOpen, -⟩ := bind_eq_ok_iff.mp isKey
    cases text with
    | nil => cases isOpen
    | cons first others =>
      rw [openKey] at isOpen
      split at isOpen
      · next isQuote => exact ⟨others, by rw [isQuote]⟩
      · cases isOpen

end Entries

/-- A value is read exactly in one of these ways. -/
theorem readValue_eq_ok_iff {steps levels : Nat} {text rest : Text} {document : Document} :
    readValue (steps + 1) levels text = .ok (document, rest) ↔
      ReadsValue steps levels text document rest := by
  constructor
  · intro isRead
    obtain ⟨fewer, same, reads⟩ := exists_reads_of_readValue isRead
    rw [Nat.add_right_cancel_iff.mp same]
    exact reads
  · intro reads
    cases reads with
    | text isText =>
      rw [readValue, if_pos rfl]
      exact bind_eq_ok_iff.mpr ⟨_, isText, rfl⟩
    | emptyList isDeeper isEmpty =>
      rw [readValue, if_neg (by decide), if_pos rfl, isEmpty]
      exact bind_eq_ok_iff.mpr ⟨_, isDeeper, rfl⟩
    | list isDeeper areItems =>
      obtain ⟨first, others, isFirst, -, notClosed⟩ := beginsValue_of_readItems areItems
      rw [isFirst] at areItems
      rw [readValue, if_neg (by decide), if_pos rfl, isFirst]
      refine bind_eq_ok_iff.mpr ⟨_, isDeeper, ?_⟩
      split
      · next closed => exact absurd (List.cons.inj closed).1 notClosed
      · exact bind_eq_ok_iff.mpr ⟨_, areItems, rfl⟩
    | emptyMapping isDeeper isEmpty =>
      rw [readValue, if_neg (by decide), if_neg (by decide), if_pos rfl, isEmpty]
      exact bind_eq_ok_iff.mpr ⟨_, isDeeper, rfl⟩
    | mapping isDeeper areEntries =>
      obtain ⟨others, isFirst⟩ := exists_eq_of_readEntries areEntries
      rw [isFirst] at areEntries
      rw [readValue, if_neg (by decide), if_neg (by decide), if_pos rfl, isFirst]
      refine bind_eq_ok_iff.mpr ⟨_, isDeeper, ?_⟩
      simp only
      rw [if_neg (by decide)]
      exact bind_eq_ok_iff.mpr ⟨_, areEntries, rfl⟩
    | bare isBare =>
      obtain ⟨first, others, rfl, isInitial⟩ := isBareInitial_of_readBare isBare
      have other {opening : Char} (noInitial : ¬isBareInitial opening) : first ≠ opening := by
        rintro rfl
        exact noInitial isInitial
      rw [readValue, if_neg (other (by decide)), if_neg (other (by decide)),
        if_neg (other (by decide))]
      exact bind_eq_ok_iff.mpr ⟨_, isBare, rfl⟩

/-! ### Faults -/

/-- The faults that reading can end in. -/
inductive IsReadingFault : Fault → Prop
  | malformed : IsReadingFault .malformed
  | nestedTooDeep : IsReadingFault .nestedTooDeep
  | numeralTooLong {digits : Nat} (long : numeralLimit < digits) :
      IsReadingFault (.numeralTooLong digits)

/-- Whether a computation ends in a fault of reading if it does in any. -/
def FailsReading {α : Type} (result : Except Fault α) : Prop :=
  ∀ fault, result = .error fault → IsReadingFault fault

theorem failsReading_ok {α : Type} (value : α) : FailsReading (.ok value) :=
  nofun

theorem failsReading_malformed {α : Type} : FailsReading (malformed : Except Fault α) := by
  rintro fault ⟨⟩
  exact .malformed

theorem FailsReading.bind {α β : Type} {first : Except Fault α} {next : α → Except Fault β}
    (firstFails : FailsReading first) (nextFails : ∀ value, FailsReading (next value)) :
    FailsReading (first >>= next) := by
  intro fault fails
  rcases bind_eq_error_iff.mp fails with failed | ⟨value, -, failed⟩
  · exact firstFails fault failed
  · exact nextFails value fault failed

theorem failsReading_goDown (levels : Nat) : FailsReading (goDown levels) := by
  cases levels with
  | zero =>
    rintro fault ⟨⟩
    exact .nestedTooDeep
  | succ levels => exact failsReading_ok levels

theorem failsReading_readText (text : Text) : FailsReading (readText text) := by
  unfold readText
  split
  · exact failsReading_ok _
  · exact failsReading_malformed

theorem failsReading_readNumber (isNegative : Bool) (text : Text) :
    FailsReading (readNumber isNegative text) := by
  unfold readNumber
  simp only
  split
  · exact failsReading_malformed
  · split
    · refine FailsReading.bind (fun fault fails => ?_) fun _ => failsReading_ok _
      unfold readNumeral at fails
      split at fails
      · cases fails
      · next long =>
        cases fails
        exact .numeralTooLong (Nat.lt_of_not_le long)
    · exact failsReading_ok _

theorem failsReading_readBare (text : Text) : FailsReading (readBare text) := by
  unfold readBare
  split
  · exact failsReading_ok _
  · split <;> exact failsReading_readNumber _ _

theorem failsReading_readContinuation (closing : Char) (text : Text) :
    FailsReading (readContinuation closing text) := by
  unfold readContinuation
  split
  · split
    · exact failsReading_ok _
    · split
      · exact failsReading_ok _
      · exact failsReading_malformed
  · exact failsReading_malformed

theorem failsReading_openKey (text : Text) : FailsReading (openKey text) := by
  unfold openKey
  split
  · split
    · exact failsReading_ok _
    · exact failsReading_malformed
  · exact failsReading_malformed

theorem failsReading_readColon (text : Text) : FailsReading (readColon text) := by
  unfold readColon
  split
  · exact failsReading_ok _
  · exact failsReading_malformed

/-- Reading a value ends in a fault of reading, and so does reading items and entries. -/
theorem failsReading_readParts (steps : Nat) :
    (∀ levels text, FailsReading (readValue steps levels text)) ∧
    (∀ levels text, FailsReading (readItems steps levels text)) ∧
    (∀ levels text, FailsReading (readEntries steps levels text)) := by
  induction steps with
  | zero =>
    refine ⟨fun levels text => ?_, fun levels text => ?_, fun levels text => ?_⟩
    · rw [readValue]
      exact failsReading_malformed
    · rw [readItems]
      exact failsReading_malformed
    · rw [readEntries]
      exact failsReading_malformed
  | succ steps ih =>
    obtain ⟨valueFails, itemsFail, entriesFail⟩ := ih
    refine ⟨fun levels text => ?_, fun levels text => ?_, fun levels text => ?_⟩
    · cases text with
      | nil =>
        rw [readValue]
        exact failsReading_malformed
      | cons first others =>
        rw [readValue]
        split
        · exact (failsReading_readText others).bind fun _ => failsReading_ok _
        · split
          · refine (failsReading_goDown levels).bind fun below => ?_
            split
            · exact failsReading_ok _
            · exact (itemsFail below _).bind fun _ => failsReading_ok _
          · split
            · refine (failsReading_goDown levels).bind fun below => ?_
              split
              · exact failsReading_malformed
              · split
                · exact failsReading_ok _
                · exact (entriesFail below _).bind fun _ => failsReading_ok _
            · exact (failsReading_readBare _).bind fun _ => failsReading_ok _
    · rw [readItems]
      refine (valueFails levels text).bind fun _ => ?_
      refine (failsReading_readContinuation ']' _).bind fun continuation => ?_
      cases continuation with
      | done => exact failsReading_ok _
      | more next => exact (itemsFail levels next).bind fun _ => failsReading_ok _
    · rw [readEntries]
      refine (failsReading_openKey text).bind fun opened => ?_
      refine (failsReading_readText opened).bind fun _ => ?_
      refine (failsReading_readColon _).bind fun beforeValue => ?_
      refine (valueFails levels beforeValue).bind fun _ => ?_
      refine (failsReading_readContinuation closingBrace _).bind fun continuation => ?_
      cases continuation with
      | done => exact failsReading_ok _
      | more next => exact (entriesFail levels next).bind fun _ => failsReading_ok _

/-- Reading ends in a fault if the text is no JSON, a numeral is too long, or the document is
nested too deep, and in no other. -/
theorem isReadingFault_of_read {text : Text} {fault : Fault} (fails : read text = .error fault) :
    IsReadingFault fault := by
  have isReading : FailsReading (read text) := by
    refine ((failsReading_readParts _).1 _ _).bind fun _ => ?_
    simp only
    split
    · exact failsReading_ok _
    · exact failsReading_malformed
  exact isReading fault fails

end Json

end RadioCall
