/-
This file defines the settings of a controller: its callsign, the file with its
vocabulary and the level of its log. Each can be set; a callsign must be one word, and a
level that is not known is passed over. Values that come from a settings file are taken
as they are, so a setting is a document and need not be a text.
-/

import RadioCall.Document.Basic
import RadioCall.File.Path
import RadioCall.Text.LetterCase
import RadioCall.Text.Words

namespace RadioCall

/-- The settings of a controller, with the path of their file and whether something was
set since they were last loaded or saved. -/
structure Settings where
  callsign : Document
  vocabularyPath : Document
  logLevel : Document
  path : Path
  isDirty : Bool
  deriving Repr

namespace Settings

/-! ### Defaults -/

/-- The callsign of a controller that has not chosen one. -/
def defaultCallsign : Text := "magic".toList

/-- The level of a log for which none was chosen. -/
def defaultLogLevel : Text := "INFO".toList

/-- The path of the settings file in the home directory. -/
def defaultPath : Path :=
  Path.relative [".gcibot".toList, "settings.json".toList]

/-- The settings before anything is set or loaded. -/
def initial : Settings where
  callsign := .text defaultCallsign
  vocabularyPath := .text []
  logLevel := .text defaultLogLevel
  path := defaultPath
  isDirty := false

/-! ### Setting -/

/-- The levels that a log can be set to. -/
def logLevels : List Text :=
  ["DEBUG".toList, "INFO".toList, "WARNING".toList, "ERROR".toList]

/-- Sets the callsign, in small letters. -/
def setCallsign (settings : Settings) (given : Text) : Except Fault Settings :=
  match words given with
  | [word] => .ok { settings with callsign := .text (lower word), isDirty := true }
  | _ => .error (.callsignNotOneWord given)

/-- Sets the path of the vocabulary file; the empty text stands for the standard
vocabulary. -/
def setVocabularyPath (settings : Settings) (given : Text) : Settings :=
  { settings with vocabularyPath := .text given, isDirty := true }

/-- Sets the level of the log, in any letter case; other words change nothing. -/
def setLogLevel (settings : Settings) (given : Text) : Settings :=
  if logLevels.contains (upper given) then
    { settings with logLevel := .text (upper given), isDirty := true }
  else settings

/-! ### Record -/

/-- The settings as they are stored. -/
def record (settings : Settings) : Document :=
  .record
    [("callsign".toList, settings.callsign),
     ("vocabulary_path".toList, settings.vocabularyPath),
     ("log_level".toList, settings.logLevel)]

/-- The settings with the values of a stored section; what the section leaves out gets
its default. -/
def withSection (settings : Settings) (entries : List (Scalar × Document)) : Settings where
  callsign := (Document.find? "callsign".toList entries).getD (.text defaultCallsign)
  vocabularyPath := (Document.find? "vocabulary_path".toList entries).getD (.text [])
  logLevel := (Document.find? "log_level".toList entries).getD (.text defaultLogLevel)
  path := settings.path
  isDirty := false

end Settings

end RadioCall
