/-
This file defines a tree of files and what can be done with it: looking, reading,
writing, making directories and removing. A step is followed only from a directory that
is there, so a path can fail by what lies on its way: nothing, or a file. What a file
holds is a text or bytes that are none; a text is read as JSON, or as a document by a
reader that is given.
-/

import RadioCall.Document.Table
import RadioCall.File.Path
import RadioCall.Json.Reader

namespace RadioCall

/-! ### Contents -/

/-- Reads the text of a file in the format that vocabulary files have. -/
abbrev DocumentReader := Text → Except Fault Document

/-- What a file holds. -/
inductive Content
  | text (value : Text)
  /-- Bytes that are not a text. -/
  | undecodable
  deriving DecidableEq, Repr

namespace Content

/-- The text of a file that holds one. -/
def asText : Content → Except Fault Text
  | text value => .ok value
  | undecodable => .error .notDecodable

/-- The JSON document of a file. -/
def asJson (content : Content) : Except Fault Document := do
  Json.read (← content.asText)

/-- The document of a file in the format that vocabulary files have. -/
def asDocument (reader : DocumentReader) (content : Content) : Except Fault Document := do
  reader (← content.asText)

end Content

/-- What is at a place of the tree. -/
inductive Entry
  | directory
  | file (content : Content)
  deriving Repr

/-! ### Trees -/

/-- The files and directories by place, as a program sees them that is installed in one
directory and works in another. The working directory and those above it are always there. -/
structure FileTree where
  installed : Location
  working : Location
  entries : Table Location Entry
  deriving Repr

namespace FileTree

/-- The tree without files, for a program that is installed in the root and works there. -/
def empty : FileTree := ⟨.root, .root, []⟩

/-- Whether a place is the working directory or above it. -/
def isWorking (tree : FileTree) (location : Location) : Bool :=
  location.names.isPrefixOf tree.working.names

/-- What is at a place. -/
def entry? (tree : FileTree) (location : Location) : Option Entry :=
  if tree.isWorking location then some .directory else tree.entries.lookup location

/-- The tree with something put at a place. -/
def put (tree : FileTree) (location : Location) (entry : Entry) : FileTree :=
  { tree with entries := Table.put (· == ·) tree.entries location entry }

/-- Follows a step from a place, which must be a directory. -/
def follow (tree : FileTree) (location : Location) (step : Step) : Except Fault Location :=
  match tree.entry? location with
  | some .directory =>
    if step.isTooLong then .error .nameTooLong else .ok (location.follow step)
  | some (.file _) => .error .throughFile
  | none => .error .noFile

/-- Refuses a path that no file can have, whatever is in the tree. -/
def check (path : Path) : Except Fault Unit :=
  if path.hasNull then .error .nullInPath
  else if path.isTooLong then .error .nameTooLong
  else .ok ()

/-- The place that a path leads to; nothing needs to be there. -/
def locate (tree : FileTree) (path : Path) : Except Fault Location := do
  check path
  path.steps.foldlM tree.follow (Location.ofRoot tree.working path.root)

/-- What a path leads to. -/
def find (tree : FileTree) (path : Path) : Except Fault Entry := do
  match tree.entry? (← tree.locate path) with
  | some entry => .ok entry
  | none => .error .noFile

/-- Whether a path leads to something. A name that is too long leaves that open. -/
def isPresent (tree : FileTree) (path : Path) : Except Fault Bool :=
  match tree.find path with
  | .ok _ => .ok true
  | .error .nameTooLong => .error .nameTooLong
  | .error _ => .ok false

/-- What the file at a path holds. -/
def read (tree : FileTree) (path : Path) : Except Fault Content := do
  match ← tree.find path with
  | .file content => .ok content
  | .directory => .error .isDirectory

/-- Writes a file into a directory that is there. -/
def write (tree : FileTree) (path : Path) (content : Content) : Except Fault FileTree := do
  let location ← tree.locate path
  match tree.entry? location with
  | some .directory => .error .isDirectory
  | _ => .ok (tree.put location (.file content))

/-- Writes a text that is made after the file was opened. Opening empties the file, so if
the text cannot be made the file stays empty. -/
def writeMade (tree : FileTree) (path : Path) (made : Except Fault Text) :
    FileTree × Except Fault Unit :=
  match tree.write path (.text (made.toOption.getD [])) with
  | .error fault => (tree, .error fault)
  | .ok written => (written, made.map fun _ => ())

/-- Follows the steps of a path and makes the directories that are missing. A file in
the way or a name that is too long ends it, and the directories made so far stay. -/
def makeSteps (tree : FileTree) (location : Location) : List Step → FileTree × Except Fault Unit
  | [] => (tree, .ok ())
  | step :: rest =>
    let next := location.follow step
    if step.isTooLong then (tree, .error .nameTooLong)
    else
      match tree.entry? next with
      | some .directory => makeSteps tree next rest
      | some (.file _) => (tree, .error (if rest.isEmpty then .alreadyFile else .throughFile))
      | none => makeSteps (tree.put next .directory) next rest

/-- Makes a directory and those on the way to it. -/
def makeDirectories (tree : FileTree) (path : Path) : FileTree × Except Fault Unit :=
  match check path with
  | .error fault => (tree, .error fault)
  | .ok () => tree.makeSteps (Location.ofRoot tree.working path.root) path.steps

/-- Writes a file and makes the directories on the way to it. Where that is not possible
the tree stays as it is. -/
def place (tree : FileTree) (path : Path) (content : Content) : FileTree :=
  match (tree.makeDirectories path.parent).1.write path content with
  | .ok written => written
  | .error _ => tree

/-- Removes the file at a path. -/
def remove (tree : FileTree) (path : Path) : FileTree :=
  { tree with entries := tree.entries.filter fun entry => entry.1 ≠ path.location tree.working }

end FileTree

end RadioCall
