/-
This file defines the levels of a log. A level is a number; the usual ones have names,
and two of them have two names.
-/

import RadioCall.Document.Basic
import RadioCall.Text.LetterCase

namespace RadioCall

/-- A level of a log. Records below the level are not kept; level zero leaves the choice
to the logger above. -/
abbrev LogLevel := Int

namespace LogLevel

/-- The level of details that help to find errors. -/
def debug : LogLevel := 10

/-- The level of usual events. -/
def info : LogLevel := 20

/-- The level of events that may point to an error. -/
def warning : LogLevel := 30

/-- The levels by name. -/
def names : List (Text × LogLevel) :=
  [("CRITICAL".toList, 50), ("FATAL".toList, 50), ("ERROR".toList, 40), ("WARN".toList, warning),
   ("WARNING".toList, warning), ("INFO".toList, info), ("DEBUG".toList, debug),
   ("NOTSET".toList, 0)]

/-- The level with this name, in capitals. -/
def ofName? (name : Text) : Option LogLevel :=
  names.lookup name

/-- The level that a value of a configuration stands for: a number, or a name. -/
def ofScalar? : Scalar → Option LogLevel
  | .integer level => some level
  | .boolean value => some (if value then 1 else 0)
  | .text name => ofName? name
  | _ => none

/-! ### Words -/

/-- The format of log records, which is known by a name among the levels. -/
def basicFormat : Text :=
  "%(levelname)s:%(name)s:%(message)s".toList

/-- The level that a word asks for, in any letter case. Unknown words ask for the level
of usual events. Two names that stand beside the levels stand for something else: the
format of records, and the table of styles. -/
def ofWord (word : Text) : Except Fault LogLevel :=
  let name := upper word
  match ofName? name with
  | some level => .ok level
  | none =>
    if name = "BASIC_FORMAT".toList then .error (.unknownLevel basicFormat)
    else if name = "_STYLES".toList then .error .wrongKind
    else .ok info

end LogLevel

end RadioCall
