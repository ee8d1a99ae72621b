/-
This file writes documents as JSON in plain characters: everything outside the visible
plain characters is escaped, by code units of 16 bits where no short escape exists. A
document is written on one line, or over several lines with two spaces per level; over
several lines it may be nested as deep as it could be read. A pair is written as a list;
bytes, dates, moments and sets have no form.
-/

import RadioCall.Json.Reader
import RadioCall.Number.Shortest

namespace RadioCall

namespace Json

/-! ### Texts -/

/-- A code unit as an escape. -/
def unitEscape (unit : Nat) : Text :=
  backslash :: 'u' :: hexadecimal 4 unit

/-- A character as it stands in a JSON text. Characters beyond the first plane take two
code units. -/
def escapedCharacter (character : Char) : Text :=
  if character = doubleQuote ∨ character = backslash then [backslash, character]
  else if character = '\n' then [backslash, 'n']
  else if character = '\r' then [backslash, 'r']
  else if character = '\t' then [backslash, 't']
  else if character.toNat = 0x08 then [backslash, 'b']
  else if character.toNat = 0x0c then [backslash, 'f']
  else if 0x20 ≤ character.toNat ∧ character.toNat ≤ 0x7e then [character]
  else if character.toNat < 0x10000 then unitEscape character.toNat
  else
    unitEscape (0xd800 + (character.toNat - 0x10000) / 0x400) ++
      unitEscape (0xdc00 + (character.toNat - 0x10000) % 0x400)

/-- A text as JSON. -/
def textLiteral (value : Text) : Text :=
  doubleQuote :: value.flatMap escapedCharacter ++ [doubleQuote]

/-! ### Scalars -/

/-- The words for the doubles without digits. -/
def specialNames : Double.SpecialNames :=
  ⟨"Infinity".toList, "NaN".toList⟩

/-- A scalar without the quotes that it has as a text or key. -/
def scalarText : Scalar → Except Fault Text
  | .null => .ok "null".toList
  | .boolean true => .ok "true".toList
  | .boolean false => .ok "false".toList
  | .integer value => writeInteger value
  | .double value => .ok (value.text specialNames)
  | .text value => .ok value
  | .bytes _ => .error .wrongKind
  | .date _ => .error .wrongKind
  | .moment _ => .error .wrongKind

/-- A scalar as JSON. -/
def scalarLiteral : Scalar → Except Fault Text
  | .text value => .ok (textLiteral value)
  | value => scalarText value

/-- A key as JSON: always a text. -/
def keyLiteral (key : Scalar) : Except Fault Text :=
  textLiteral <$> scalarText key

/-! ### Documents -/

/-- How the parts of lists and mappings are set: `none` sets them on one line, and a
number sets each on its own line, indented to that level. -/
abbrev Level := Option Nat

/-- The level of the parts of a document. -/
def Level.deeper (level : Level) : Level :=
  level.map (· + 1)

/-- The line break before a part, or nothing on one line. -/
def Level.lineBreak : Level → Text
  | none => []
  | some depth => '\n' :: List.replicate (2 * depth) ' '

/-- What stands between two parts. -/
def Level.separator : Level → Text
  | none => [',', ' ']
  | some depth => ',' :: Level.lineBreak (some depth)

/-- The parts of a list or mapping between its brackets. -/
def bracketed (level : Level) (opening closing : Text) (parts : List Text) : Text :=
  if parts.isEmpty then opening ++ closing
  else
    opening ++ level.deeper.lineBreak ++ level.deeper.separator.intercalate parts ++
      level.lineBreak ++ closing

mutual

/-- A document as JSON, its parts set as the level says. -/
def write (level : Level) : Document → Except Fault Text
  | .scalar value => scalarLiteral value
  | .list items => do
    .ok (bracketed level ['['] [']'] (← writeItems level.deeper items))
  | .mapping entries => do
    .ok (bracketed level "\x7b".toList "\x7d".toList (← writeEntries level.deeper entries))
  | .set _ => .error .wrongKind
  | .pair first second => do
    let written ← write level.deeper first
    .ok (bracketed level ['['] [']'] [written, ← write level.deeper second])

/-- The items of a list as JSON. -/
def writeItems (level : Level) : List Document → Except Fault (List Text)
  | [] => .ok []
  | item :: rest => do
    let first ← write level item
    .ok (first :: (← writeItems level rest))

/-- The entries of a mapping as JSON. -/
def writeEntries (level : Level) : List (Scalar × Document) → Except Fault (List Text)
  | [] => .ok []
  | (key, value) :: rest => do
    let first := (← keyLiteral key) ++ [':', ' '] ++ (← write level value)
    .ok (first :: (← writeEntries level rest))

end

/-- A document as JSON on one line. -/
def line (document : Document) : Except Fault Text :=
  write none document

/-- A document as JSON over several lines, nested up to the limit. -/
def indented (document : Document) : Except Fault Text :=
  if document.depth ≤ nestingLimit then write (some 0) document else .error .nestedTooDeep

end Json

end RadioCall
