/-
This file holds tables that keep the order in which their keys were first put in.
Putting a value under a key that is already there changes the value and keeps the place
and the spelling of the key.
-/

namespace RadioCall

/-- Values by key, in the order in which the keys were first put in. -/
abbrev Table (κ α : Type) := List (κ × α)

namespace Table

/-- Puts a value under a key; `same` tells which keys are one. -/
def put {κ α : Type} (same : κ → κ → Bool) (table : Table κ α) (key : κ) (value : α) :
    Table κ α :=
  match table with
  | [] => [(key, value)]
  | (present, old) :: rest =>
    if same present key then (present, value) :: rest
    else (present, old) :: put same rest key value

/-- The table of a list of entries, put in one by one. -/
def ofEntries {κ α : Type} (same : κ → κ → Bool) (entries : List (κ × α)) : Table κ α :=
  entries.foldl (fun table entry => put same table entry.1 entry.2) []

end Table

end RadioCall
