/-
This file writes a text between quotes, the way messages show a text that was given.
Single quotes are used unless the text holds a single quote and no double quote. The
chosen quote, the backslash, line breaks and tabs are escaped, and a character without
a visible form is written as its code point in hexadecimal digits. Bytes are written in
the same way, with a letter in front; those that are no plain characters are escaped.
-/

import RadioCall.Text.Printable

namespace RadioCall

/-! ### Hexadecimal digits -/

/-- The hexadecimal digits, small letters after nine. -/
def hexDigits : Text :=
  "0123456789abcdef".toList

/-- The lowest `count` hexadecimal digits of a number, highest first. -/
def hexadecimal : Nat → Nat → Text
  | 0, _ => []
  | count + 1, value => hexadecimal count (value / 16) ++ [hexDigits.getD (value % 16) '0']

/-! ### Quoting -/

/-- The single quote. -/
def singleQuote : Char :=
  Char.ofNat 0x27

/-- The double quote. -/
def doubleQuote : Char :=
  Char.ofNat 0x22

/-- The backslash. -/
def backslash : Char :=
  Char.ofNat 0x5c

/-- The quote that surrounds a text. -/
def quoteFor (text : Text) : Char :=
  if text.contains singleQuote && !text.contains doubleQuote then doubleQuote else singleQuote

/-- A character as it stands between the given quotes. -/
def quotedCharacter (quote character : Char) : Text :=
  if character = quote ∨ character = backslash then [backslash, character]
  else if character = '\n' then [backslash, 'n']
  else if character = '\r' then [backslash, 'r']
  else if character = '\t' then [backslash, 't']
  else if isPrintable character then [character]
  else if character.toNat < 0x100 then backslash :: 'x' :: hexadecimal 2 character.toNat
  else if character.toNat < 0x10000 then backslash :: 'u' :: hexadecimal 4 character.toNat
  else backslash :: 'U' :: hexadecimal 8 character.toNat

/-- A text between quotes. -/
def quoted (text : Text) : Text :=
  quoteFor text :: text.flatMap (quotedCharacter (quoteFor text)) ++ [quoteFor text]

/-! ### Bytes -/

/-- The characters whose code points are the bytes. -/
def charactersOf (bytes : List UInt8) : Text :=
  bytes.map fun byte => Char.ofNat byte.toNat

/-- A byte as it stands between the given quotes. -/
def quotedByte (quote : Char) (byte : UInt8) : Text :=
  if byte < 0x80 then quotedCharacter quote (Char.ofNat byte.toNat)
  else backslash :: 'x' :: hexadecimal 2 byte.toNat

/-- Bytes between quotes. -/
def quotedBytes (bytes : List UInt8) : Text :=
  let quote := quoteFor (charactersOf bytes)
  'b' :: quote :: bytes.flatMap (quotedByte quote) ++ [quote]

end RadioCall
