/-
This file proves that texts read back from JSON. A character stands in a text as itself, after
a backslash, or as one or two code units. One code unit is enough for the first plane, none of
whose characters has the number of half a pair; the two halves of a pair put together are the
number of the character beyond.
-/

import Mathlib.Tactic.SplitIfs
import RadioCall.Json.Writer

namespace RadioCall

namespace Json

/-! ### Code units -/

theorem hexValue?_hexDigits :
    ∀ digit < 16, hexValue? (hexDigits.getD digit '0') = some digit := by
  decide

/-- A code unit reads back from its four digits. -/
theorem codeUnit?_hexadecimal {unit : Nat} (isUnit : unit < 0x10000) (rest : Text) :
    codeUnit? (hexadecimal 4 unit ++ rest) = some (unit, rest) := by
  have digit (value : Nat) : hexValue? (hexDigits.getD (value % 16) '0') = some (value % 16) :=
    hexValue?_hexDigits _ (Nat.mod_lt value (by decide))
  simp only [hexadecimal, List.nil_append, List.cons_append, codeUnit?, digit, Option.bind_eq_bind,
    Option.bind_some, Option.some.injEq, Prod.mk.injEq, and_true]
  omega

/-- No character has the number of half a pair. -/
theorem toNat_lt_or (character : Char) :
    character.toNat < 0xd800 ∨ 0xdfff < character.toNat ∧ character.toNat < 0x110000 := by
  have valid := character.valid
  rw [UInt32.isValidChar, Nat.isValidChar] at valid
  exact valid

/-- A code unit that is no upper half of a pair stands alone. -/
theorem unicodeEscape?_of_codeUnit? {text rest : Text} {unit : Nat}
    (isUnit : codeUnit? text = some (unit, rest)) (alone : ¬(0xd800 ≤ unit ∧ unit ≤ 0xdbff)) :
    unicodeEscape? text = some (unitCharacter unit, rest) := by
  rw [unicodeEscape?, isUnit]
  exact if_neg alone

theorem unitCharacter_toNat (character : Char) : unitCharacter character.toNat = character := by
  have noHalf := toNat_lt_or character
  rw [unitCharacter, if_neg (by omega), Char.ofNat_toNat]

/-- A character of the first plane reads back from its code unit. -/
theorem unicodeEscape?_unit {character : Char} (isUnit : character.toNat < 0x10000) (rest : Text) :
    unicodeEscape? (hexadecimal 4 character.toNat ++ rest) = some (character, rest) := by
  have noHalf := toNat_lt_or character
  rw [unicodeEscape?_of_codeUnit? (codeUnit?_hexadecimal isUnit rest) (by omega),
    unitCharacter_toNat]

/-- The upper half of a pair and the lower half after it stand for one character. -/
theorem unicodeEscape?_of_pair {text rest tail after : Text} {upper lower : Nat}
    (isUnit : codeUnit? text = some (upper, rest)) (isUpper : 0xd800 ≤ upper ∧ upper ≤ 0xdbff)
    (follows : expect? [backslash, 'u'] rest = some tail)
    (isNext : codeUnit? tail = some (lower, after)) (isLower : 0xdc00 ≤ lower ∧ lower ≤ 0xdfff) :
    unicodeEscape? text =
      some (Char.ofNat (0x10000 + (upper - 0xd800) * 0x400 + (lower - 0xdc00)), after) := by
  rw [unicodeEscape?, isUnit]
  refine (if_pos isUpper).trans ?_
  rw [follows]
  refine (congrArg (· >>= _) isNext).trans ?_
  exact if_pos isLower

/-- A character beyond the first plane reads back from its two code units. -/
theorem unicodeEscape?_pair {character : Char} (beyond : 0x10000 ≤ character.toNat) (rest : Text) :
    unicodeEscape? (hexadecimal 4 (0xd800 + (character.toNat - 0x10000) / 0x400) ++
      (unitEscape (0xdc00 + (character.toNat - 0x10000) % 0x400) ++ rest)) =
      some (character, rest) := by
  have bounded := toNat_lt_or character
  have together : 0x10000 + (0xd800 + (character.toNat - 0x10000) / 0x400 - 0xd800) * 0x400 +
      (0xdc00 + (character.toNat - 0x10000) % 0x400 - 0xdc00) = character.toNat := by
    generalize character.toNat = number at *
    omega
  rw [unicodeEscape?_of_pair (codeUnit?_hexadecimal (by omega) _) (by omega) rfl
    (codeUnit?_hexadecimal (by omega) rest) (by omega), together, Char.ofNat_toNat]

/-! ### Characters -/

theorem characters?_escaped {escaped : Char} {text rest : Text}
    (isEscape : escape? text = some (escaped, rest)) (steps : Nat) :
    characters? (steps + 1) (backslash :: text) =
      (characters? steps rest).map fun found => (escaped :: found.1, found.2) := by
  rw [characters?, if_neg (by decide), if_pos rfl, isEscape]
  simp only [Option.bind_eq_bind, Option.bind_some]
  cases characters? steps rest <;> rfl

theorem characters?_plain {character : Char} (noQuote : character ≠ doubleQuote)
    (noBackslash : character ≠ backslash) (visible : 0x20 ≤ character.toNat) (steps : Nat)
    (rest : Text) :
    characters? (steps + 1) (character :: rest) =
      (characters? steps rest).map fun found => (character :: found.1, found.2) := by
  rw [characters?, if_neg noQuote, if_neg noBackslash, if_neg (by omega)]
  cases characters? steps rest <;> rfl

theorem escape?_mark {mark : Char} (isMark : mark = doubleQuote ∨ mark = backslash) (rest : Text) :
    escape? (mark :: rest) = some (mark, rest) := by
  rcases isMark with rfl | rfl <;> rfl

theorem escape?_unicode (text : Text) : escape? ('u' :: text) = unicodeEscape? text := by
  rw [escape?, if_neg (by decide)]

/-- One step reads a character as it was written. -/
theorem characters?_escapedCharacter (character : Char) (steps : Nat) (rest : Text) :
    characters? (steps + 1) (escapedCharacter character ++ rest) =
      (characters? steps rest).map fun found => (character :: found.1, found.2) := by
  unfold escapedCharacter
  split_ifs with mark lineFeed carriage tab back page visible unit
  · exact characters?_escaped (escape?_mark mark rest) steps
  · exact characters?_escaped (lineFeed ▸ rfl) steps
  · exact characters?_escaped (carriage ▸ rfl) steps
  · exact characters?_escaped (tab ▸ rfl) steps
  · rw [← Char.ofNat_toNat character, back]
    exact characters?_escaped rfl steps
  · rw [← Char.ofNat_toNat character, page]
    exact characters?_escaped rfl steps
  · obtain ⟨noQuote, noBackslash⟩ := not_or.mp mark
    exact characters?_plain noQuote noBackslash visible.1 steps rest
  · exact characters?_escaped ((escape?_unicode _).trans (unicodeEscape?_unit unit rest)) steps
  · rw [List.append_assoc]
    exact characters?_escaped
      ((escape?_unicode _).trans (unicodeEscape?_pair (by omega) rest)) steps

theorem escapedCharacter_ne_nil (character : Char) : escapedCharacter character ≠ [] := by
  unfold escapedCharacter
  split_ifs <;> exact List.cons_ne_nil _ _

/-! ### Texts -/

theorem characters?_flatMap (value rest : Text) {steps : Nat} (enough : value.length < steps) :
    characters? steps (value.flatMap escapedCharacter ++ doubleQuote :: rest) =
      some (value, rest) := by
  induction value generalizing steps with
  | nil =>
    obtain ⟨fewer, rfl⟩ := Nat.exists_eq_add_of_lt enough
    rfl
  | cons character value ih =>
    obtain ⟨fewer, rfl⟩ := Nat.exists_eq_succ_of_ne_zero (Nat.ne_zero_of_lt enough)
    rw [List.flatMap_cons, List.append_assoc, characters?_escapedCharacter,
      ih (Nat.lt_of_succ_lt_succ enough)]
    rfl

theorem length_le_length_flatMap (value : Text) :
    value.length ≤ (value.flatMap escapedCharacter).length := by
  induction value with
  | nil => exact Nat.le_refl 0
  | cons character value ih =>
    have written := List.length_pos_iff.mpr (escapedCharacter_ne_nil character)
    rw [List.flatMap_cons, List.length_append, List.length_cons]
    omega

/-- A text reads back from what stands between its quotes. -/
theorem readText_flatMap (value rest : Text) :
    readText (value.flatMap escapedCharacter ++ doubleQuote :: rest) = .ok (value, rest) := by
  have longer := length_le_length_flatMap value
  rw [readText, characters?_flatMap value rest]
  rw [List.length_append]
  omega

end Json

end RadioCall
