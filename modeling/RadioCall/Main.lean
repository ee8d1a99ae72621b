/-
This file is the command line program. It collects the files that the program looks at,
runs it on them, and passes on what it prints and its status. Vocabulary files are read as
outlines. A fault that the program does not handle is reported on the error output.
-/

import RadioCall.CommandLine.Program
import RadioCall.Document.Outline
import RadioCall.Vocabulary.Standard

namespace RadioCall

namespace CommandLine

/-- Bytes as the content of a file. -/
def contentOfBytes (bytes : ByteArray) : Content :=
  match String.fromUTF8? bytes with
  | some text => .text text.toList
  | none => .undecodable

/-- The tree with a file of the disk at a path; a file that cannot be read is left out. -/
def addFile (tree : FileTree) (path : Path) (name : String) : IO FileTree := do
  try
    let bytes ← IO.FS.readBinFile name
    pure (tree.place path (contentOfBytes bytes))
  catch _ => pure tree

/-- The tree before files are added: the program works in the current directory and brings
its vocabulary file along. -/
def startingTree : IO FileTree := do
  let current ← IO.currentDir
  let working := (Path.ofText current.toString.toList).location .root
  let tree : FileTree := { FileTree.empty with working := working }
  pure (tree.place tree.vocabularyPath (.text Vocabulary.standardFile))

/-- The files that the program looks at. -/
def collectFiles (arguments : List Text) : IO FileTree := do
  let home := (← IO.getEnv "HOME").getD "."
  let settingsName := home ++ "/" ++ String.ofList Settings.defaultPath.text
  let tree ← addFile (← startingTree) Version.path (String.ofList Version.path.text)
  let tree ← addFile tree Settings.defaultPath settingsName
  match vocabularyName? arguments tree with
  | some name => addFile tree (Path.ofText name) (String.ofList name)
  | none => pure tree

/-- The rest of the input. -/
partial def readInput (input : IO.FS.Stream) (before : ByteArray) : IO ByteArray := do
  let bytes ← input.read 4096
  if bytes.isEmpty then pure before else readInput input (before ++ bytes)

end CommandLine

end RadioCall

/-- Runs the program on its arguments. -/
def main (arguments : List String) : IO UInt32 := do
  let texts := arguments.map String.toList
  let tree ← RadioCall.CommandLine.collectFiles texts
  let input ←
    if RadioCall.CommandLine.readsInput texts then
      RadioCall.CommandLine.readInput (← IO.getStdin) .empty
    else pure .empty
  let printout := RadioCall.CommandLine.run RadioCall.Outline.read texts
    (RadioCall.CommandLine.contentOfBytes input) tree
  (← IO.getStdout).putStr (String.ofList printout.output)
  match printout.result with
  | .ok status => pure status.toUInt32
  | .error cause => do
    IO.eprintln (String.ofList (cause.message?.getD "the settings or files cannot be used".toList))
    pure 1
