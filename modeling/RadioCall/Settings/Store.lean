/-
This file loads settings from their file and saves them to it. The settings are one
section of the file; saving keeps the other sections. A file that cannot be opened or is
no JSON makes loading and saving fail without further notice, and so does a file without
a section of settings when loading. Other faults are reported: bytes that are no text,
numerals that are too long, documents that are nested too deep, and, when saving, a file
that holds something else than sections.
-/

import RadioCall.File.Tree
import RadioCall.Json.Writer
import RadioCall.Settings.Basic

namespace RadioCall

/-- The name of the section that holds the settings. -/
def settingsSection : Text := "gci".toList

/-- Whether a fault only makes loading or saving fail: the file cannot be opened or is no
JSON. -/
def Fault.isSettled : Fault → Bool
  | noFile => true
  | isDirectory => true
  | throughFile => true
  | alreadyFile => true
  | nameTooLong => true
  | malformed => true
  | _ => false

/-- The outcome of loading or saving that ends in a fault. -/
def settle (fault : Fault) : Except Fault Bool :=
  if fault.isSettled then .ok false else .error fault

namespace Settings

/-- The settings with the path of their file, if one is given. -/
def withPath (settings : Settings) (path : Option Path) : Settings :=
  { settings with path := path.getD settings.path }

/-! ### Loading -/

/-- The section of settings of a file. A file without it has an empty one. -/
def storedSection? : Document → Option (List (Scalar × Document))
  | .mapping sections =>
    match Document.find? settingsSection sections with
    | none => some []
    | some (.mapping entries) => some entries
    | some _ => none
  | _ => none

/-- Reads the JSON document of a file. -/
def readStored (tree : FileTree) (path : Path) : Except Fault Document := do
  (← tree.read path).asJson

/-- Loads the settings from a file, and tells whether it did. The path is remembered in
any case. A name that is too long is reported. -/
def load (settings : Settings) (tree : FileTree) (path : Option Path) :
    Except Fault Bool × Settings :=
  let settings := settings.withPath path
  match tree.isPresent settings.path with
  | .error fault => (.error fault, settings)
  | .ok false => (.ok false, settings)
  | .ok true =>
    match readStored tree settings.path with
    | .error fault => (settle fault, settings)
    | .ok stored =>
      match storedSection? stored with
      | none => (.ok false, settings)
      | some entries => (.ok true, settings.withSection entries)

/-! ### Saving -/

/-- The sections of a file that is there, or none. -/
def storedSections (tree : FileTree) (path : Path) :
    Except Fault (List (Scalar × Document)) := do
  if ← tree.isPresent path then
    match ← readStored tree path with
    | .mapping sections => .ok sections
    | _ => .error .wrongKind
  else .ok []

/-- The document of a file with the settings put into it. -/
def store (settings : Settings) (sections : List (Scalar × Document)) : Document :=
  .mapping (Table.put Scalar.isSameKey sections (.text settingsSection) settings.record)

/-- What saving does: whether it succeeded, the settings and the files afterwards. -/
structure Saved where
  outcome : Except Fault Bool
  settings : Settings
  tree : FileTree

/-- Saves the settings to a file and makes the directories on the way to it. The path is
remembered in any case. The file is read before it is opened to be written. -/
def save (settings : Settings) (tree : FileTree) (path : Option Path) : Saved :=
  let settings := settings.withPath path
  match tree.makeDirectories settings.path.parent with
  | (tree, .error fault) => ⟨settle fault, settings, tree⟩
  | (tree, .ok ()) =>
    match storedSections tree settings.path with
    | .error fault => ⟨settle fault, settings, tree⟩
    | .ok sections =>
      match tree.writeMade settings.path (Json.indented (settings.store sections)) with
      | (tree, .error fault) => ⟨settle fault, settings, tree⟩
      | (tree, .ok ()) => ⟨.ok true, { settings with isDirty := false }, tree⟩

end Settings

end RadioCall
