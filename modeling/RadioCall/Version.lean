/-
This file finds the version of the program: the text of a file in the working directory
without the blanks around it, or the version that is built in if there is no such file or
a directory in its place.
-/

import RadioCall.File.Tree
import RadioCall.Text.Lines
import RadioCall.Text.Words

namespace RadioCall

namespace Version

/-- The version that is built in. -/
def builtIn : Text := "0.1.0".toList

/-- The path of the file with the version. -/
def path : Path := Path.relative ["VERSION".toList]

/-- The version of the program. -/
def read (tree : FileTree) : Except Fault Text :=
  match tree.read path with
  | .ok content => (fun text => trim (plainLineEnds false text)) <$> content.asText
  | .error _ => .ok builtIn

end Version

end RadioCall
