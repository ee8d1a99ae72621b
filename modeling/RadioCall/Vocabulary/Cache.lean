/-
This file keeps the vocabularies that were loaded last. A vocabulary is loaded once from
its file and then handed out again without a look at the file, until eight others were
loaded after it. A file is known by the place that its path leads to, so different paths
to one place share a vocabulary; the file that comes with the program is one like others.
A load that fails leaves no trace.
-/

import RadioCall.File.Tree
import RadioCall.Vocabulary.Definition

namespace RadioCall

/-! ### Files of vocabularies -/

/-- The path of the vocabulary file that comes with the program. -/
def FileTree.vocabularyPath (tree : FileTree) : Path :=
  ((tree.installed.into "config".toList).into "vocabulary.yaml".toList).path

/-- The place of the vocabulary file at a path, or of the one that comes with the program if
no path is given. -/
def FileTree.vocabularyPlace (tree : FileTree) (path : Option Path) : Except Fault Location :=
  let path := path.getD tree.vocabularyPath
  if path.hasNull then .error .nullInPath else .ok (path.location tree.working)

/-- The definition in a document as a file holds it: one that counts as absent is empty. -/
def Document.definition (document : Document) : Document :=
  if document.isFalsy then .mapping [] else document

/-- Reads the vocabulary of a file. -/
def Vocabulary.read (reader : DocumentReader) (tree : FileTree) (place : Location) :
    Except Fault Vocabulary := do
  let document ← (← tree.read place.path).asDocument reader
  Vocabulary.ofDocument document.definition

/-! ### The cache -/

/-- A vocabulary that was loaded, numbered in the order of loading. -/
structure LoadedVocabulary where
  number : Nat
  vocabulary : Vocabulary
  deriving DecidableEq, Repr

/-- The vocabularies that were asked for last, the latest first, by the places of their
files, and how many were loaded from files so far. -/
structure VocabularyCache where
  entries : List (Location × LoadedVocabulary)
  loaded : Nat
  deriving DecidableEq, Repr

namespace VocabularyCache

/-- How many vocabularies are kept. -/
def capacity : Nat := 8

/-- The cache before anything was loaded. -/
def empty : VocabularyCache := ⟨[], 0⟩

/-- Puts an entry in front of the others; those beyond the capacity are dropped. -/
def remember (cache : VocabularyCache) (place : Location) (found : LoadedVocabulary) :
    List (Location × LoadedVocabulary) :=
  ((place, found) :: cache.entries.filter fun entry => entry.1 ≠ place).take capacity

/-- The vocabulary of the file at a place, from the cache or else from the file itself. -/
def load (cache : VocabularyCache) (reader : DocumentReader) (tree : FileTree)
    (place : Location) : Except Fault LoadedVocabulary × VocabularyCache :=
  match cache.entries.lookup place with
  | some found => (.ok found, { cache with entries := cache.remember place found })
  | none =>
    match Vocabulary.read reader tree place with
    | .error fault => (.error fault, cache)
    | .ok vocabulary =>
      let found := ⟨cache.loaded, vocabulary⟩
      (.ok found, ⟨cache.remember place found, cache.loaded + 1⟩)

/-- The vocabulary at a path, or the one that comes with the program if no path is given. -/
def loadPath (cache : VocabularyCache) (reader : DocumentReader) (tree : FileTree)
    (path : Option Path) : Except Fault LoadedVocabulary × VocabularyCache :=
  match tree.vocabularyPlace path with
  | .error fault => (.error fault, cache)
  | .ok place => cache.load reader tree place

end VocabularyCache

end RadioCall
