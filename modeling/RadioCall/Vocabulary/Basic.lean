/-
This file defines the vocabulary that transmissions are read with: the wake word that
addresses any controller, the phrases that announce a request, the words for the ten
digits and the words for contact categories.
-/

import RadioCall.Request

namespace RadioCall

/-- A digit. -/
abbrev Digit := Fin 10

/-- A phrase that announces a request, as its words. -/
structure Trigger where
  phrase : List Text
  request : RequestWord
  deriving DecidableEq, Repr

/-- A vocabulary. The triggers stand in the order in which they are tried: longer
phrases first, then by request, then as the definition lists them. The tables of words
keep the order in which the words were first listed. -/
structure Vocabulary where
  universalAlias : Text
  triggers : List Trigger
  digits : List (Text × Digit)
  categories : List (Text × ContactCategory)
  deriving DecidableEq, Repr

namespace Vocabulary

/-- The digit that a word spells. -/
def digit? (vocabulary : Vocabulary) (word : Text) : Option Digit :=
  vocabulary.digits.lookup word

/-- The contact category that a word names. -/
def category? (vocabulary : Vocabulary) (word : Text) : Option ContactCategory :=
  vocabulary.categories.lookup word

/-- The phrases that announce a request, in the order in which they are tried. -/
def phrasesFor (vocabulary : Vocabulary) (request : RequestWord) : List (List Text) :=
  (vocabulary.triggers.filter fun trigger => trigger.request = request).map Trigger.phrase

end Vocabulary

end RadioCall
