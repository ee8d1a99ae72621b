/-
This file reads documents from outlines, the way vocabulary files are written: an entry or
an item stands on a line of its own, and what belongs to an entry stands further right in
the lines below it. It knows the plain part of the format: whole numbers, words, texts in
double quotes, lists of these in square brackets, and comments. All else is refused.
-/

import RadioCall.Document.Basic
import RadioCall.Text.Numeral
import RadioCall.Text.Words

namespace RadioCall

namespace Outline

/-- A text that is no plain outline. -/
def malformed {α : Type} : Except Fault α :=
  .error .malformed

/-! ### Lines -/

/-- A line with how far to the right it stands. -/
structure Line where
  depth : Nat
  text : Text
  deriving Repr

/-- The parts of a text between separators. -/
def partsAt (separator : Char) (text : Text) : List Text :=
  text.foldr
    (fun character parts =>
      if character = separator then [] :: parts else extendFirst character parts)
    [[]]

/-- The line of a text. -/
def Line.ofText (text : Text) : Line :=
  ⟨(text.takeWhile (· = ' ')).length, trim text⟩

/-- Whether a line says something: it is not blank, and no comment. -/
def Line.counts (line : Line) : Bool :=
  !line.text.isEmpty && !beginsWith (· = '#') line.text

/-- The lines of an outline that count. -/
def linesOf (text : Text) : List Line :=
  ((partsAt '\n' text).map Line.ofText).filter Line.counts

/-- Lines that stand at a depth, each with those below it that stand further right. -/
def gathered (depth : Nat) (lines : List Line) : List (Line × List Line) :=
  (lines.foldr
    (fun line (found, below) =>
      if depth < line.depth then (found, line :: below) else ((line, below) :: found, []))
    ([], [])).1

/-! ### Values on a line -/

/-- Whether a character may stand in a word. -/
def isWordPart (character : Char) : Bool :=
  character.isAlphanum || character = ' ' || character = '_'

/-- The words that stand for other values than themselves. -/
def reserved : List Text :=
  ["null".toList, "true".toList, "false".toList, "yes".toList, "no".toList, "on".toList,
   "off".toList]

/-- Whether a text is a word that stands for itself. -/
def isWord (text : Text) : Bool :=
  beginsWith Char.isAlpha text && text.all isWordPart &&
    !reserved.contains (text.map Char.toLower)

/-- Whether a text is a numeral without zeros in front. -/
def isPlainNumeral (text : Text) : Bool :=
  !text.isEmpty && text.all Char.isDigit && (text.head? ≠ some '0' || text.length = 1)

/-- Reads a text up to the double quote at its end. -/
def readQuoted (text : Text) : Except Fault Scalar :=
  if text.getLast? = some doubleQuote && text.dropLast.all isWordPart then .ok (.text text.dropLast)
  else malformed

/-- Reads a value without parts. -/
def readScalar (text : Text) : Except Fault Scalar :=
  if beginsWith (· = doubleQuote) text then readQuoted text.tail
  else if isPlainNumeral text then do .ok (.integer (← readNumeral text))
  else if isWord text then .ok (.text text)
  else malformed

/-- Reads a list in square brackets without the first of them. -/
def readList (text : Text) : Except Fault Document :=
  if text.getLast? = some ']' then do
    let items ← (partsAt ',' text.dropLast).mapM fun part => readScalar (trim part)
    .ok (.list (items.map .scalar))
  else malformed

/-- Reads a value that stands on a line: one without parts, or a list of them. -/
def readInline (text : Text) : Except Fault Document :=
  if beginsWith (· = '[') text then readList text.tail else .scalar <$> readScalar text

/-! ### Blocks of lines -/

/-- Reads an item of a list, which stands at the depth of the list after a dash. -/
def readItem (depth : Nat) (line : Line) : Except Fault Document :=
  match line.text with
  | '-' :: ' ' :: rest => if line.depth = depth then readInline (trim rest) else malformed
  | _ => malformed

/-- The key of a line and what stands after it, if anything. -/
def splitEntry? (text : Text) : Option (Text × Text) :=
  let key := trim (text.takeWhile (· ≠ ':'))
  match text.dropWhile (· ≠ ':') with
  | [':'] => some (key, [])
  | ':' :: ' ' :: rest => some (key, trim rest)
  | _ => none

/-- Reads lines as a list or mapping, with so many levels below one another. -/
def readBlock : Nat → List Line → Except Fault Document
  | _, [] => .ok .null
  | 0, _ => malformed
  | levels + 1, first :: rest =>
    let lines := first :: rest
    if beginsWith (· = '-') first.text then .list <$> lines.mapM (readItem first.depth)
    else if lines.any (·.depth < first.depth) then malformed
    else do
      let entries ← (gathered first.depth lines).mapM fun (line, below) =>
        match splitEntry? line.text with
        | none => malformed
        | some (key, []) => do .ok (← readScalar key, ← readBlock levels below)
        | some (key, value) => do
          if below.isEmpty then .ok (← readScalar key, ← readInline value) else malformed
      .ok (.ofEntries entries)

/-- Whether a character may stand in an outline: a visible plain one, a space or the end of
a line. -/
def isPlain (character : Char) : Bool :=
  character = '\n' || (0x20 ≤ character.toNat && character.toNat ≤ 0x7e)

/-- Reads the document of an outline. -/
def read (text : Text) : Except Fault Document :=
  let lines := linesOf text
  if text.all isPlain then readBlock lines.length lines else malformed

end Outline

end RadioCall
