/-
This file holds the standard vocabulary and the file that it comes in. Besides the English
digits it knows the radio pronunciations (wun, tree, fower, fife, ait, niner) and both
ways of saying zero.
-/

import RadioCall.Vocabulary.Basic

namespace RadioCall

namespace Vocabulary

/-- The words for one entry of a table. -/
def entries {α : Type} (value : α) (spellings : List String) : List (Text × α) :=
  spellings.map fun spelling => (spelling.toList, value)

/-- The standard phrases, longer ones first. -/
def standardTriggers : List Trigger :=
  [⟨["alpha".toList, "check".toList], .alphaCheck⟩,
   ⟨["bogey".toList, "dope".toList], .bogeyDope⟩,
   ⟨["bogie".toList, "dope".toList], .bogeyDope⟩,
   ⟨["radio".toList, "check".toList], .radioCheck⟩,
   ⟨["comm".toList, "check".toList], .radioCheck⟩,
   ⟨["snap".toList, "lock".toList], .snaplock⟩,
   ⟨["declare".toList], .declare⟩,
   ⟨["picture".toList], .picture⟩,
   ⟨["spiked".toList], .spiked⟩,
   ⟨["spike".toList], .spiked⟩,
   ⟨["snaplock".toList], .snaplock⟩]

/-- The standard words for the digits. -/
def standardDigits : List (Text × Digit) :=
  entries ⟨0, by decide⟩ ["0", "zero", "o", "oh"] ++
  entries ⟨1, by decide⟩ ["1", "one", "wun"] ++
  entries ⟨2, by decide⟩ ["2", "two"] ++
  entries ⟨3, by decide⟩ ["3", "three", "tree"] ++
  entries ⟨4, by decide⟩ ["4", "four", "fower"] ++
  entries ⟨5, by decide⟩ ["5", "five", "fife"] ++
  entries ⟨6, by decide⟩ ["6", "six"] ++
  entries ⟨7, by decide⟩ ["7", "seven"] ++
  entries ⟨8, by decide⟩ ["8", "eight", "ait"] ++
  entries ⟨9, by decide⟩ ["9", "nine", "niner"]

/-- The standard words for contact categories. -/
def standardCategories : List (Text × ContactCategory) :=
  entries .airplanes ["airplane", "airplanes", "plane", "planes"] ++
  entries .fighters ["fighter", "fighters"] ++
  entries .helicopters ["helicopter", "helicopters", "helo", "helos", "rotary"]

/-- The standard vocabulary. -/
def standard : Vocabulary where
  universalAlias := "anyface".toList
  triggers := standardTriggers
  digits := standardDigits
  categories := standardCategories

/-! ### The file -/

/-- The lines of the vocabulary file that comes with the program, each in one part or more. -/
def standardLines : List (List String) :=
  [["# Recognized radio vocabulary ", "for the transmission parser."],
   ["#"],
   ["# All phrases are written ", "in sanitized form: ", "lowercase, no punctuation."],
   [""],
   ["# Wake word accepted ", "in addition to ", "the controller's own callsign"],
   ["universal_alias: anyface"],
   [""],
   ["# Trigger phrases per request. ", "Keys must match ", "RequestWord values."],
   ["triggers:"],
   ["  alpha_check:"],
   ["    - alpha check"],
   ["  bogey_dope:"],
   ["    - bogey dope"],
   ["    - bogie dope"],
   ["  declare:"],
   ["    - declare"],
   ["  picture:"],
   ["    - picture"],
   ["  radio_check:"],
   ["    - radio check"],
   ["    - comm check"],
   ["  spiked:"],
   ["    - spiked"],
   ["    - spike"],
   ["  snaplock:"],
   ["    - snaplock"],
   ["    - snap lock"],
   [""],
   ["# Words decoded as ", "a single digit, ", "including ICAO/military ", "pronunciations"],
   ["digits:"],
   ["  0: [\"0\", zero, o, oh]"],
   ["  1: [\"1\", one, wun]"],
   ["  2: [\"2\", two]"],
   ["  3: [\"3\", three, tree]"],
   ["  4: [\"4\", four, fower]"],
   ["  5: [\"5\", five, fife]"],
   ["  6: [\"6\", six]"],
   ["  7: [\"7\", seven]"],
   ["  8: [\"8\", eight, ait]"],
   ["  9: [\"9\", nine, niner]"],
   [""],
   ["# Filter words accepted ", "after BOGEY DOPE"],
   ["contact_categories:"],
   ["  airplanes: ", "[airplane, airplanes, ", "plane, planes]"],
   ["  fighters: ", "[fighter, fighters]"],
   ["  helicopters: ", "[helicopter, helicopters, ", "helo, helos, rotary]"]]

/-- What the vocabulary file that comes with the program holds. -/
def standardFile : Text :=
  standardLines.flatMap fun parts => parts.flatMap String.toList ++ ['\n']

end Vocabulary

end RadioCall
