/-
This file builds a vocabulary from its definition, a document with the universal alias,
the trigger phrases by request, the words by digit and the words by contact category.
The definition is checked in that order and the first thing that does not fit is
reported. Phrases and words are taken in small letters with single spaces.
-/

import RadioCall.Document.Shown
import RadioCall.Number.Literal
import RadioCall.Text.LetterCase
import RadioCall.Vocabulary.Basic

namespace RadioCall

namespace Vocabulary

/-! ### Phrases -/

/-- A rejected definition. -/
def reject {α : Type} (cause : DefinitionFault) : Except Fault α :=
  .error (.definition cause)

/-- The words of a phrase, in small letters. -/
def phraseOf (document : Document) : Except Fault (List Text) :=
  (fun spoken => words (lower spoken)) <$> document.spoken

/-- A word or phrase as the tables hold it. -/
def entryOf (document : Document) : Except Fault Text :=
  sentence <$> phraseOf document

/-- The universal alias of a definition, which must be one word. -/
def readAlias (definition : List (Scalar × Document)) : Except Fault Text := do
  match ← phraseOf ((Document.find? "universal_alias".toList definition).getD (.text [])) with
  | [word] => .ok word
  | phrase => reject (.aliasNotOneWord (sentence phrase))

/-! ### Triggers -/

/-- Whether texts are in the order of their code points. -/
def isOrdered (first second : Text) : Bool :=
  !List.lex second first (fun left right => left.toNat < right.toNat)

/-- Whether numbers are in ascending order. -/
def isAscending (first second : Scalar) : Bool :=
  match first.magnitude?, second.magnitude? with
  | some first, some second => first.1 < second.1 || (first.1 == second.1 && first.2 ≤ second.2)
  | _, _ => true

/-- The text of a scalar that is one. -/
def textOf? : Scalar → Option Text
  | .text value => some value
  | _ => none

/-- Kinds of keys. Moments by universal time are of another kind than others. -/
inductive KeyKind
  | text
  | number
  | bytes
  | date
  | localMoment
  | universalMoment
  deriving DecidableEq, Repr

/-- The kind of a key that has an order among its kind. -/
def keyKind? : Scalar → Option KeyKind
  | .null => none
  | .boolean _ => some .number
  | .integer _ => some .number
  | .double _ => some .number
  | .text _ => some .text
  | .bytes _ => some .bytes
  | .date _ => some .date
  | .moment value => some (if value.ahead?.isSome then .universalMoment else .localMoment)

/-- Whether two keys of one kind are in order: texts by code points, bytes by value, dates
and moments by time, numbers by value. -/
def isInOrder : Scalar → Scalar → Bool
  | .text first, .text second => isOrdered first second
  | .bytes first, .bytes second => !List.lex second first (fun left right => left < right)
  | .date first, .date second => first.number ≤ second.number
  | .moment first, .moment second => first.instant ≤ second.instant
  | first, second => isAscending first second

/-- Whether keys are all of one kind. -/
def haveOneKind (keys : List Scalar) : Bool :=
  match keys.head?.bind keyKind? with
  | some kind => keys.all fun key => keyKind? key = some kind
  | none => false

/-- Keys in order. Keys of different kinds have no order. -/
def sortKeys (keys : List Scalar) : Except Fault (List Scalar) :=
  if keys.length ≤ 1 || haveOneKind keys then .ok (keys.mergeSort isInOrder)
  else .error .wrongKind

/-- Whether a key names a request. -/
def isRequestName (key : Scalar) : Bool :=
  RequestWord.all.any fun request => key.isSameKey (.text request.name)

/-- Rejects keys that name no request. -/
def checkRequestNames (triggers : List (Scalar × Document)) : Except Fault Unit :=
  match (triggers.map Prod.fst).filter fun key => !isRequestName key with
  | [] => .ok ()
  | unknown => do
    let ordered ← sortKeys unknown
    let shown ← (Document.list (ordered.map Document.scalar)).shown
    reject (.unknownRequestWords shown)

/-- Adds a phrase to the triggers. A phrase may be listed again for the same request,
and not for another. -/
def addPhrase (request : RequestWord) (triggers : List Trigger) (spelling : Document) :
    Except Fault (List Trigger) := do
  let phrase ← phraseOf spelling
  if phrase.isEmpty then reject (.emptyPhrase request.name)
  else
    match triggers.find? fun trigger => trigger.phrase = phrase && trigger.request ≠ request with
    | some other => reject (.sharedPhrase (sentence phrase) other.request.name request.name)
    | none => .ok (triggers ++ [⟨phrase, request⟩])

/-- Adds the phrases of a request to the triggers; there must be one. -/
def addRequest (listing : List (Scalar × Document)) (triggers : List Trigger)
    (request : RequestWord) : Except Fault (List Trigger) := do
  let spellings := (Document.find? request.name listing).getD .null
  if spellings.isFalsy then reject (.noPhrase request.name)
  else (← spellings.members).foldlM (addPhrase request) triggers

/-- Triggers with longer phrases first, otherwise in the order given. -/
def longestFirst (triggers : List Trigger) : List Trigger :=
  triggers.mergeSort fun first second => second.phrase.length ≤ first.phrase.length

/-- The triggers of a definition. -/
def readTriggers (definition : List (Scalar × Document)) : Except Fault (List Trigger) :=
  match Document.find? "triggers".toList definition with
  | some (.mapping listing) => do
    checkRequestNames listing
    longestFirst <$> RequestWord.all.foldlM (addRequest listing) []
  | _ => reject .noTriggers

/-! ### Digits -/

/-- The whole number that plain bytes spell. -/
def wholeNumberOfBytes? (bytes : List UInt8) : Option Int :=
  if bytes.all fun byte => byte < 0x80 then wholeNumber? (charactersOf bytes) else none

/-- The whole number that a key stands for: numbers lose their fraction, texts and bytes are
read. A key that stands for none gives nothing; an infinity is a fault. -/
def wholeKey? : Scalar → Except Fault (Option Int)
  | .null => .ok none
  | .boolean value => .ok (some (if value then 1 else 0))
  | .integer value => .ok (some value)
  | .double (.finite isNegative magnitude) =>
    .ok (some (Double.signed isNegative (Double.wholePart magnitude)))
  | .double (.infinite _) => .error .beyondRange
  | .double .notANumber => .ok none
  | .text value => .ok (wholeNumber? value)
  | .bytes value => .ok (wholeNumberOfBytes? value)
  | .date _ => .ok none
  | .moment _ => .ok none

/-- The digit that a key stands for. -/
def digitKey (key : Scalar) : Except Fault Digit := do
  match ← wholeKey? key with
  | none => do reject (.digitKey (← key.shown))
  | some value =>
    if inRange : 0 ≤ value ∧ value ≤ 9 then .ok ⟨value.toNat, by omega⟩
    else do reject (.digitOutOfRange (← writeInteger value))

/-- Puts words into a table under one value. -/
def addWords {α : Type} (value : α) (table : List (Text × α)) (listed : Document) :
    Except Fault (List (Text × α)) := do
  (← listed.members).foldlM
    (fun table word => do .ok (Table.put (· == ·) table (← entryOf word) value)) table

/-- The digits without a word, in order. -/
def digitsWithoutWord (table : List (Text × Digit)) : List Digit :=
  (List.finRange 10).filter fun digit => !table.any fun entry => entry.2 = digit

/-- The words for digits of a definition; each digit must have one. -/
def readDigits (definition : List (Scalar × Document)) :
    Except Fault (List (Text × Digit)) :=
  match Document.find? "digits".toList definition with
  | some (.mapping listing) => do
    let table ←
      listing.foldlM (fun table entry => do addWords (← digitKey entry.1) table entry.2) []
    match digitsWithoutWord table with
    | [] => .ok table
    | missing =>
      let shown ← (Document.list (missing.map fun digit => .integer digit.val)).shown
      reject (.digitsWithoutWord shown)
  | _ => reject .noDigits

/-! ### Contact categories -/

/-- The contact category that a key names. -/
def categoryKey (key : Scalar) : Except Fault ContactCategory :=
  match (textOf? key).bind ContactCategory.ofName? with
  | some category => .ok category
  | none => do reject (.unknownCategory (← key.shown))

/-- The words for contact categories of a definition; there may be none. -/
def readCategories (definition : List (Scalar × Document)) :
    Except Fault (List (Text × ContactCategory)) :=
  let listed := (Document.find? "contact_categories".toList definition).getD .null
  if listed.isFalsy then .ok []
  else
    match listed with
    | .mapping listing =>
      listing.foldlM (fun table entry => do addWords (← categoryKey entry.1) table entry.2) []
    | _ => reject .categoriesNotMapping

/-! ### Vocabularies -/

/-- The vocabulary of a definition. -/
def ofDocument : Document → Except Fault Vocabulary
  | .mapping definition => do
    let universalAlias ← readAlias definition
    let triggers ← readTriggers definition
    let digits ← readDigits definition
    let categories ← readCategories definition
    .ok { universalAlias, triggers, digits, categories }
  | _ => reject .notMapping

end Vocabulary

end RadioCall
