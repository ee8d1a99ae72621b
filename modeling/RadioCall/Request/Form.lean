/-
This file defines request forms. A form names a kind of request and holds values under
the names of the fields that requests of this kind have. The names are checked: a field
may be left out if it has a default, and no other fields may be given. Locations and
contact categories are checked as well; every other value is taken as it is, whether it
fits its field or not.
-/

import RadioCall.Document.Equal
import RadioCall.Document.Shown
import RadioCall.Request

namespace RadioCall

/-! ### Names -/

namespace Document

/-- What a document stands for if it is a name. -/
def named? {α : Type} (ofName? : Text → Option α) : Document → Option α
  | scalar (.text name) => ofName? name
  | _ => none

/-- The kind of request that a document names. -/
def asRequestWord (document : Document) : Except Fault RequestWord :=
  match document.named? RequestWord.ofName? with
  | some word => .ok word
  | none => do .error (.unknownRequestWord (← document.shown))

/-- The contact category that a document names. -/
def asCategory (document : Document) : Except Fault ContactCategory :=
  match document.named? ContactCategory.ofName? with
  | some category => .ok category
  | none => do .error (.unknownCategory (← document.shown))

end Document

/-! ### Fields of a form -/

/-- A field that a form asks for. -/
structure FormField where
  name : Text
  /-- The value of the field where it is left out; without one it must be given. -/
  default? : Option Document
  deriving Repr

namespace FormField

/-- A field that must be given. -/
def required (name : String) : FormField :=
  ⟨name.toList, none⟩

/-- A field that may be left out. -/
def optional (name : String) (value : Document) : FormField :=
  ⟨name.toList, some value⟩

/-- The field with its value: the one given, or else its default. -/
def filled (field : FormField) (given : List (Scalar × Document)) :
    Except Fault (Text × Document) :=
  match (Document.find? field.name given).or field.default? with
  | some value => .ok (field.name, value)
  | none => .error .wrongKind

/-- The fields of a form with their values, in the order of the form. Nothing else may be
given. -/
def fillAll (fields : List FormField) (given : List (Scalar × Document)) :
    Except Fault (List (Text × Document)) :=
  if given.all fun entry => fields.any fun field => entry.1.isSameKey (.text field.name) then
    fields.mapM fun field => field.filled given
  else .error .wrongKind

end FormField

/-- The fields of a location. -/
def Bra.formFields : List FormField :=
  [.required "bearing", .required "range", .required "altitude"]

/-- The fields that belong to a kind of request. -/
def RequestWord.formFields : RequestWord → List FormField
  | alphaCheck => []
  | bogeyDope => [.optional "filter" (.text ContactCategory.everything.name)]
  | declare => [.required "bra", .optional "is_bullseye" (.boolean false)]
  | picture => [.optional "radius" .null]
  | radioCheck => []
  | spiked => [.required "bearing"]
  | snaplock => [.required "bra"]

/-! ### Forms -/

/-- A request as it is filled in. -/
structure RequestForm where
  word : RequestWord
  /-- The values by the names of their fields; the callsign comes first. -/
  fields : List (Text × Document)
  deriving Repr

namespace RequestForm

/-- A form as a record, which begins with the kind of the request. -/
def record (form : RequestForm) : Document :=
  .record (("request_type".toList, .text form.word.name) :: form.fields)

/-- Whether two forms say the same: their records are equal. -/
def isEqual (first second : RequestForm) : Bool :=
  first.record.isEqual second.record

/-- A location that is given by its fields, as a record. -/
def location : Document → Except Fault Document
  | .mapping given => do .ok (.record (← FormField.fillAll Bra.formFields given))
  | _ => .error .wrongKind

/-- A contact category that is given by its name, as that name. -/
def category (document : Document) : Except Fault Document := do
  .ok (.text (← document.asCategory).name)

/-- Reads the value of one field, if it is given. -/
def readField (name : String) (read : Document → Except Fault Document)
    (given : List (Scalar × Document)) : Except Fault (List (Scalar × Document)) :=
  given.mapM fun entry =>
    if entry.1.isSameKey (.text name.toList) then do .ok (entry.1, ← read entry.2)
    else .ok entry

/-- The form of a kind of request with the given values. The location is read before the
contact category, and both before the names of the fields are checked. -/
def ofFields (word : RequestWord) (given : List (Scalar × Document)) :
    Except Fault RequestForm := do
  let given ← readField "bra" location given
  let given ← readField "filter" category given
  .ok ⟨word, ← FormField.fillAll (.required "callsign" :: word.formFields) given⟩

end RequestForm

end RadioCall
