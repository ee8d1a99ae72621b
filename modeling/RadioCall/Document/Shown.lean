/-
This file writes documents the way messages show them: texts between quotes, lists in
square brackets, mappings and sets in curly braces, pairs in parentheses, and words for the
values without digits. Documents may stand within one another up to a limit. They are
written part by part, so it is the first part that is nested too deep, or is a number with
too many digits, that tells why a document cannot be shown.
-/

import RadioCall.Document.Basic
import RadioCall.Number.Shortest

namespace RadioCall

/-- A scalar as messages show it. -/
def Scalar.shown : Scalar → Except Fault Text
  | null => .ok "None".toList
  | boolean true => .ok "True".toList
  | boolean false => .ok "False".toList
  | integer value => writeInteger value
  | double value => .ok (value.text Double.plainNames)
  | text value => .ok (quoted value)
  | bytes value => .ok (quotedBytes value)
  | date value => .ok value.shown
  | moment value => .ok value.shown

/-- Parts in curly braces. -/
def inBraces (parts : List Text) : Text :=
  "\x7b".toList ++ commaSeparated parts ++ "\x7d".toList

mutual

/-- A document as messages show it, with documents within one another at so many levels. -/
def Document.shownWithin : Nat → Document → Except Fault Text
  | _, .scalar value => value.shown
  | 0, _ => .error .nestedTooDeep
  | levels + 1, .list items => do
    .ok ('[' :: commaSeparated (← Document.shownItems levels items) ++ [']'])
  | levels + 1, .mapping entries => do
    .ok (inBraces (← Document.shownEntries levels entries))
  | _ + 1, .set items => do
    let shown ← items.mapM Scalar.shown
    .ok (if items.isEmpty then shownCall "set" [] else inBraces shown)
  | levels + 1, .pair first second => do
    let shown ← Document.shownWithin levels first
    .ok (shownCall "" [shown, ← Document.shownWithin levels second])

/-- The items of a list as messages show them. -/
def Document.shownItems (levels : Nat) : List Document → Except Fault (List Text)
  | [] => .ok []
  | item :: rest => do
    let first ← Document.shownWithin levels item
    .ok (first :: (← Document.shownItems levels rest))

/-- The entries of a mapping as messages show them. -/
def Document.shownEntries (levels : Nat) :
    List (Scalar × Document) → Except Fault (List Text)
  | [] => .ok []
  | (key, value) :: rest => do
    let first := (← key.shown) ++ [':', ' '] ++ (← Document.shownWithin levels value)
    .ok (first :: (← Document.shownEntries levels rest))

end

/-- A document as messages show it. -/
def Document.shown (document : Document) : Except Fault Text :=
  document.shownWithin nestingLimit

/-- A document as it is spoken: a text as it is, a date or moment part by part, and all
else as messages show it. -/
def Document.spoken : Document → Except Fault Text
  | .scalar (.text value) => .ok value
  | .scalar (.date value) => .ok value.spoken
  | .scalar (.moment value) => .ok value.spoken
  | document => document.shown

end RadioCall
