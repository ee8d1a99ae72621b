/-
This file words what a controller remarks about a transmission in its log: an event of
the usual level if the transmission was understood, and otherwise a detail that tells
how far it was.
-/

import RadioCall.Controller
import RadioCall.Text.Quoted

namespace RadioCall

/-- The two levels of remarks. -/
inductive RemarkLevel
  | debug
  | info
  deriving DecidableEq, Repr

/-- The name of a level of remarks. -/
def RemarkLevel.name : RemarkLevel → Text
  | debug => "DEBUG".toList
  | info => "INFO".toList

/-- A remark in a log. -/
structure Remark where
  level : RemarkLevel
  text : Text
  deriving DecidableEq, Repr

namespace Controller

/-- The remark about a transmission, by how far it was understood. -/
def remark (controller : Controller) (text : Text) : Hearing → Remark
  | .notAddressed =>
    ⟨.debug, "Transmission not addressed to ".toList ++ controller.callsign ++ ": ".toList ++
      quoted text⟩
  | .noTrigger => ⟨.debug, "No request trigger in transmission: ".toList ++ quoted text⟩
  | .noCallsign segment =>
    ⟨.debug, "Could not decode callsign from ".toList ++ quoted (sentence segment) ++
      " in ".toList ++ quoted text⟩
  | .noRequest word callsign =>
    ⟨.debug, "Invalid ".toList ++ word.name ++ " request from ".toList ++ callsign ++
      ": ".toList ++ quoted text⟩
  | .understood request =>
    ⟨.info, "Parsed ".toList ++ request.word.name ++ " request from ".toList ++
      request.callsign⟩

end Controller

end RadioCall
