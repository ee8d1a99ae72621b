/-
This file defines documents, the values that configuration files hold: scalars, lists,
mappings, sets and pairs. Bytes, dates, moments, sets and pairs stand in vocabulary files
only. The keys of a mapping are scalars; two keys are one if they are equal as numbers, so
that 1, 1.0 and true are the same key. A document is finite: one that holds itself, as a
file with references can describe it, is none.
-/

import RadioCall.Document.Calendar
import RadioCall.Document.Table
import RadioCall.Fault
import RadioCall.Number.Double

namespace RadioCall

/-! ### Scalars -/

/-- A value without parts. -/
inductive Scalar
  | null
  | boolean (value : Bool)
  | integer (value : Int)
  | double (value : Double)
  | text (value : Text)
  | bytes (value : List UInt8)
  | date (value : Date)
  | moment (value : Moment)
  deriving DecidableEq, Repr

namespace Scalar

/-- The numeric value of a scalar: the side of an infinity and zero, or zero and the
value in steps of a double. Truth values count as zero and one. -/
def magnitude? : Scalar → Option (Int × Int)
  | boolean value => some (0, if value then Double.stepsPerUnit else 0)
  | integer value => some (0, value * Double.stepsPerUnit)
  | double (.finite isNegative magnitude) => some (0, Double.signed isNegative magnitude)
  | double (.infinite isNegative) => some (Double.signed isNegative 1, 0)
  | _ => none

/-- Whether two scalars are one key. The value that is not a number equals no key. -/
def isSameKey (first second : Scalar) : Bool :=
  match first, second with
  | null, null => true
  | text first, text second => first == second
  | bytes first, bytes second => first == second
  | date first, date second => first == second
  | moment first, moment second => first.isSame second
  | _, _ =>
    match first.magnitude?, second.magnitude? with
    | some first, some second => first == second
    | _, _ => false

/-- Whether a scalar counts as absent: null, false, zero, the empty text and no bytes. -/
def isFalsy : Scalar → Bool
  | null => true
  | boolean value => !value
  | integer value => value == 0
  | double value => value.isZero
  | text value => value.isEmpty
  | bytes value => value.isEmpty
  | date _ => false
  | moment _ => false

end Scalar

/-! ### Documents -/

/-- A value as a configuration file holds it. -/
inductive Document
  | scalar (value : Scalar)
  | list (items : List Document)
  | mapping (entries : List (Scalar × Document))
  /-- The items of a set stand in the order in which they are gone through. -/
  | set (items : List Scalar)
  | pair (first second : Document)
  deriving Repr

namespace Document

/-- The document without a value. -/
def null : Document := scalar .null

/-- The document of a text. -/
def text (value : Text) : Document := scalar (.text value)

/-- The document of an integer. -/
def integer (value : Int) : Document := scalar (.integer value)

/-- The document of a truth value. -/
def boolean (value : Bool) : Document := scalar (.boolean value)

/-- A mapping with texts as keys. -/
def record (fields : List (Text × Document)) : Document :=
  mapping (fields.map fun field => (.text field.1, field.2))

/-- The mapping of a list of entries in which a key may occur several times. -/
def ofEntries (entries : List (Scalar × Document)) : Document :=
  mapping (Table.ofEntries Scalar.isSameKey entries)

/-- The value under a text key. -/
def find? (key : Text) : List (Scalar × Document) → Option Document
  | [] => none
  | (present, value) :: rest => if present.isSameKey (.text key) then some value else find? key rest

/-- Whether a document counts as absent: a falsy scalar, or nothing in it. -/
def isFalsy : Document → Bool
  | scalar value => value.isFalsy
  | list items => items.isEmpty
  | mapping entries => entries.isEmpty
  | set items => items.isEmpty
  | pair _ _ => false

/-- What a document lists: the items of a list or set, the keys of a mapping, both parts of
a pair, the characters of a text, the numbers of bytes, and nothing for a document that
counts as absent. Other scalars list nothing that could be gone through. -/
def members : Document → Except Fault (List Document)
  | list items => .ok items
  | mapping entries => .ok (entries.map fun entry => scalar entry.1)
  | set items => .ok (items.map scalar)
  | pair first second => .ok [first, second]
  | scalar (.text value) => .ok (value.map fun character => text [character])
  | scalar (.bytes value) => .ok (value.map fun byte => integer byte.toNat)
  | scalar value => if value.isFalsy then .ok [] else .error .wrongKind

/-! ### Depth -/

mutual

/-- At how many levels a document holds other documents within one another. -/
def depth : Document → Nat
  | scalar _ => 0
  | list items => itemsDepth items + 1
  | mapping entries => entriesDepth entries + 1
  | set _ => 1
  | pair first second => max (depth first) (depth second) + 1

/-- The greatest depth of the items of a list. -/
def itemsDepth : List Document → Nat
  | [] => 0
  | item :: rest => max (depth item) (itemsDepth rest)

/-- The greatest depth of the values of a mapping. -/
def entriesDepth : List (Scalar × Document) → Nat
  | [] => 0
  | (_, value) :: rest => max (depth value) (entriesDepth rest)

end

end Document

/-- At how many levels documents may stand within one another where all levels are gone
through. -/
def nestingLimit : Nat := 990

end RadioCall
