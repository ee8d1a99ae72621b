/-
This file makes the controller that the settings describe: the vocabulary of the file
that is set, or of the one that comes with the program, is loaded first, and then the
callsign is taken. A setting that is not a text cannot be used for either.
-/

import RadioCall.Controller
import RadioCall.Settings.Basic
import RadioCall.Vocabulary.Cache

namespace RadioCall

namespace Settings

/-- The path of the vocabulary file, if one is set. A value that counts as absent sets
none. -/
def vocabularyFile? (settings : Settings) : Except Fault (Option Path) :=
  match settings.vocabularyPath with
  | .scalar (.text []) => .ok none
  | .scalar (.text name) => .ok (some (Path.ofText name))
  | other => if other.isFalsy then .ok none else .error .wrongKind

/-- The callsign, if it is a text. -/
def callsignText (settings : Settings) : Except Fault Text :=
  match settings.callsign with
  | .scalar (.text value) => .ok value
  | _ => .error .notText

/-- The controller of the settings with a given vocabulary. -/
def controllerWith (settings : Settings) (vocabulary : Vocabulary) : Except Fault Controller := do
  Controller.ofCallsign (← settings.callsignText) vocabulary

/-- The controller of the settings, with the vocabulary from a cache or from its file. -/
def controller (settings : Settings) (reader : DocumentReader) (cache : VocabularyCache)
    (tree : FileTree) : Except Fault Controller × VocabularyCache :=
  match settings.vocabularyFile? with
  | .error fault => (.error fault, cache)
  | .ok path =>
    match cache.loadPath reader tree path with
    | (.error fault, cache) => (.error fault, cache)
    | (.ok found, cache) => (settings.controllerWith found.vocabulary, cache)

end Settings

end RadioCall
