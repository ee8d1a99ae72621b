/-
This file tells which documents are equal. Scalars are equal if they are one key, so
numbers are compared by value: 1, 1.0 and true are equal, and the value that is not a
number equals nothing. Lists are equal item by item, and pairs part by part. Mappings are
equal if they hold equal values under the same keys, and sets if they hold equal items,
whatever the order.
-/

import RadioCall.Document.Basic

namespace RadioCall

namespace Document

mutual

/-- Whether two documents are equal. The keys of a mapping are different from each other,
so mappings of one length are equal once the entries of the first stand in the second; so
are sets once the items do. -/
def isEqual : Document → Document → Bool
  | scalar first, scalar second => first.isSameKey second
  | list first, list second => areEqual first second
  | mapping first, mapping second => first.length == second.length && standIn second first
  | set first, set second =>
    first.length == second.length && first.all fun item => second.any item.isSameKey
  | pair first second, pair third fourth => isEqual first third && isEqual second fourth
  | _, _ => false

/-- Whether two lists of documents are equal item by item. -/
def areEqual : List Document → List Document → Bool
  | [], [] => true
  | first :: rest, second :: others => isEqual first second && areEqual rest others
  | _, _ => false

/-- Whether a mapping holds equal values under the keys of the given entries. -/
def standIn (held : List (Scalar × Document)) : List (Scalar × Document) → Bool
  | [] => true
  | (key, value) :: rest =>
    let isHeld :=
      match held.find? fun entry => key.isSameKey entry.1 with
      | some entry => isEqual value entry.2
      | none => false
    isHeld && standIn held rest

end

end Document

end RadioCall
