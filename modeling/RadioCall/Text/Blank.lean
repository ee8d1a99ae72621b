/-
This file lists the blanks: the characters that separate words. They are the
white space of the Unicode standard, version 14, together with the four
information separators U+001C to U+001F. The zero-width space and the byte order
mark are not blanks.
-/

import RadioCall.Text.CodeTable

namespace RadioCall

/-- The code points of the blanks. -/
def blankTable : CodeTable :=
  [(0x9, 0xd), (0x1c, 0x20), (0x85, 0x85), (0xa0, 0xa0), (0x1680, 0x1680), (0x2000, 0x200a),
   (0x2028, 0x2029), (0x202f, 0x202f), (0x205f, 0x205f), (0x3000, 0x3000)]

/-- Whether a character separates words. -/
def isBlank (character : Char) : Bool :=
  blankTable.covers character.toNat

end RadioCall
