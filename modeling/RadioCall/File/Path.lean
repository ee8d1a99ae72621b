/-
This file reads the names of files. A name is a list of steps from the working directory
or from the root; a step is a name within a directory, the directory itself, or the one
above it. The plain form of a name leaves out the steps that stay where they are, but
keeps each step upwards. Where a name leads to is a place counted from the root, so all
names of a file lead to one place.
-/

import RadioCall.Text.CodeTable

namespace RadioCall

/-! ### Steps -/

/-- One step from a directory. -/
inductive Step
  | stay
  | up
  | into (name : Text)
  deriving DecidableEq, Repr

/-- The step that a part of a name stands for. -/
def Step.ofText (part : Text) : Step :=
  if part = ['.'] then stay else if part = ['.', '.'] then up else into part

/-- A step as it is written. -/
def Step.text : Step → Text
  | stay => ['.']
  | up => ['.', '.']
  | into name => name

/-- The parts of a text between slashes; `part` is what was read of the first, latest
character first. -/
def slashParts (part : Text) : Text → List Text
  | [] => [part.reverse]
  | character :: rest =>
    if character = '/' then part.reverse :: slashParts [] rest
    else slashParts (character :: part) rest

/-! ### Roots -/

/-- Where a name begins. Exactly two slashes are kept apart from one, though they lead to
the same place. -/
inductive Root
  | working
  | single
  | double
  deriving DecidableEq, Repr

/-- A root as it is written. -/
def Root.text : Root → Text
  | working => []
  | single => ['/']
  | double => ['/', '/']

/-- The root of a name, by the slashes it begins with. -/
def Root.ofText (text : Text) : Root :=
  match (text.takeWhile (· = '/')).length with
  | 0 => working
  | 2 => double
  | _ => single

/-! ### Paths -/

/-- The name of a file or directory. -/
structure Path where
  root : Root
  steps : List Step
  deriving DecidableEq, Repr

namespace Path

/-- A path from the working directory. -/
def relative (names : List Text) : Path :=
  ⟨.working, names.map Step.into⟩

/-- A name taken as it is. A slash at its end asks for a directory, as a last step that
stays does. The empty name leads nowhere. -/
def literal? (text : Text) : Option Path :=
  if text.isEmpty then none
  else
    let parts := slashParts [] (text.dropWhile (· = '/'))
    let steps := (parts.filter (!·.isEmpty)).map Step.ofText
    let asksForDirectory := parts.getLast? = some [] && !steps.isEmpty
    some ⟨Root.ofText text, if asksForDirectory then steps ++ [.stay] else steps⟩

/-- The plain form of a name; the empty name is the working directory. -/
def ofText (text : Text) : Path :=
  let parts := (slashParts [] (text.dropWhile (· = '/'))).filter (!·.isEmpty)
  ⟨Root.ofText text, (parts.map Step.ofText).filter (· ≠ .stay)⟩

/-- A path as it is written. -/
def text (path : Path) : Text :=
  match path.root, path.steps with
  | .working, [] => ['.']
  | root, steps => root.text ++ ['/'].intercalate (steps.map Step.text)

/-- The path without its last step. -/
def parent (path : Path) : Path :=
  { path with steps := path.steps.dropLast }

end Path

/-! ### Limits -/

/-- How many bytes a text takes when it is stored. -/
def storedSize (text : Text) : Nat :=
  text.foldl (fun size character => size + character.utf8Size) 0

/-- The most bytes that the name of a file may take within its directory. -/
def nameLimit : Nat := 255

/-- The most bytes that a whole path may take. -/
def pathLimit : Nat := 4095

/-- Whether a step leads to a name that is too long for a file. -/
def Step.isTooLong (step : Step) : Bool :=
  nameLimit < storedSize step.text

/-- Whether a path is too long as a whole. -/
def Path.isTooLong (path : Path) : Bool :=
  pathLimit < storedSize path.text

/-- Whether a path contains the null character. -/
def Path.hasNull (path : Path) : Bool :=
  path.text.contains (Char.ofNat 0)

/-! ### Locations -/

/-- A place in the tree of files: the names that lead to it from the root. -/
structure Location where
  names : List Text
  deriving DecidableEq, Repr

namespace Location

/-- The root of the tree. -/
def root : Location := ⟨[]⟩

/-- Where a path begins, for a program in a working directory. -/
def ofRoot (working : Location) : Root → Location
  | .working => working
  | _ => root

/-- The place above a location; there is nothing above the root. -/
def above (location : Location) : Location :=
  ⟨location.names.dropLast⟩

/-- The place of a name within a location. -/
def into (location : Location) (name : Text) : Location :=
  ⟨location.names ++ [name]⟩

/-- The place one step further. -/
def follow (location : Location) : Step → Location
  | .stay => location
  | .up => location.above
  | .into name => location.into name

/-- The direct path to a location. -/
def path (location : Location) : Path :=
  ⟨.single, location.names.map Step.into⟩

end Location

/-- The place that a path leads to from a working directory, whatever files are there. -/
def Path.location (working : Location) (path : Path) : Location :=
  path.steps.foldl Location.follow (Location.ofRoot working path.root)

end RadioCall
