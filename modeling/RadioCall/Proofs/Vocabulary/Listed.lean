/-
This file writes a vocabulary down as a definition, and shows that the definition of the
standard vocabulary is accepted and gives it back. So all that holds of accepted
vocabularies holds of the standard one. Another definition is accepted too in which a word is
listed for two digits.
-/

import Mathlib.Control.Monad.Basic
import Mathlib.Data.List.Permutation
import RadioCall.Proofs.Vocabulary.Acceptance
import RadioCall.Vocabulary.Standard

namespace RadioCall

namespace Vocabulary

/-! ### Definitions of vocabularies -/

/-- The words of a table under each of some values, as a definition lists them. -/
def listing {α : Type} [DecidableEq α] (key : α → Scalar) (values : List α)
    (table : List (Text × α)) : List (Scalar × Document) :=
  values.map fun value =>
    (key value,
      .list ((table.filter fun entry => entry.2 = value).map fun entry => .text entry.1))

/-- The phrases of a vocabulary under each request, as a definition lists them. -/
def triggerListing (vocabulary : Vocabulary) : List (Scalar × Document) :=
  RequestWord.all.map fun request =>
    (.text request.name,
      .list ((vocabulary.phrasesFor request).map fun phrase => .text (sentence phrase)))

/-- The definition that lists what a vocabulary holds. -/
def definition (vocabulary : Vocabulary) : List (Scalar × Document) :=
  [(.text "universal_alias".toList, .text vocabulary.universalAlias),
   (.text "triggers".toList, .mapping vocabulary.triggerListing),
   (.text "digits".toList,
    .mapping (listing (fun digit => .integer digit.val) (List.finRange 10) vocabulary.digits)),
   (.text "contact_categories".toList,
    .mapping (listing (fun category => .text category.name) ContactCategory.all
      vocabulary.categories))]

/-! ### The standard vocabulary -/

/-- The triggers of a vocabulary by request, as they stand before they are sorted. -/
def triggersByRequest (vocabulary : Vocabulary) : List Trigger :=
  RequestWord.all.flatMap fun request =>
    (vocabulary.phrasesFor request).map fun phrase => ⟨phrase, request⟩

theorem readTriggers_definition_standard :
    readTriggers standard.definition = .ok standard.triggers := by
  have named : checkRequestNames standard.triggerListing = .ok () := by decide +kernel
  have added : RequestWord.all.foldlM (addRequest standard.triggerListing) [] =
      .ok standard.triggersByRequest := by decide +kernel
  have sorted : longestFirst standard.triggersByRequest = standard.triggers := by cbv
  have listed : Document.find? "triggers".toList standard.definition =
      some (.mapping standard.triggerListing) := by rfl
  rw [readTriggers, listed]
  refine bind_eq_ok_iff.mpr ⟨(), named, ?_⟩
  exact map_eq_ok_iff.mpr ⟨_, added, sorted⟩

/-- A definition with other words for digits differs from the standard one in these alone. -/
theorem ofDocument_definition_of_readDigits {digits table : List (Text × Digit)}
    (areDigits : readDigits (definition { standard with digits := digits }) = .ok table) :
    ofDocument (.mapping (definition { standard with digits := digits })) =
      .ok { standard with digits := table } := by
  have isAlias : readAlias standard.definition = .ok standard.universalAlias := by decide +kernel
  have areCategories : readCategories standard.definition = .ok standard.categories := by
    decide +kernel
  rw [ofDocument.eq_def]
  refine bind_eq_ok_iff.mpr ⟨_, isAlias, ?_⟩
  refine bind_eq_ok_iff.mpr ⟨_, readTriggers_definition_standard, ?_⟩
  refine bind_eq_ok_iff.mpr ⟨_, areDigits, ?_⟩
  exact bind_eq_ok_iff.mpr ⟨_, areCategories, rfl⟩

/-- The standard vocabulary is what its definition gives. -/
theorem ofDocument_definition_standard :
    ofDocument (.mapping standard.definition) = .ok standard := by
  have areDigits : readDigits standard.definition = .ok standard.digits := by decide +kernel
  exact ofDocument_definition_of_readDigits areDigits

theorem standard_haveOwnedPhrases : HaveOwnedPhrases standard.triggers :=
  (ofDocument_triggers ofDocument_definition_standard).1

theorem standard_areLongestFirst : AreLongestFirst standard.triggers :=
  (ofDocument_triggers ofDocument_definition_standard).2

/-! ### A word that is listed twice -/

/-- The definition of the standard vocabulary, with "one" listed for 1 and again for 9. -/
def oneListedTwice : Document :=
  .mapping (definition { standard with digits := standard.digits ++ entries (Fin.last 9) ["one"] })

/-- The standard vocabulary, with "one" for 9. -/
def oneAsNine : Vocabulary :=
  { standard with digits := Table.put (· == ·) standard.digits "one".toList (Fin.last 9) }

/-- The word takes the digit that it is listed for last. -/
theorem ofDocument_oneListedTwice : ofDocument oneListedTwice = .ok oneAsNine := by
  have areDigits : readDigits oneListedTwice.entries = .ok oneAsNine.digits := by decide +kernel
  exact ofDocument_definition_of_readDigits areDigits

end Vocabulary

end RadioCall
