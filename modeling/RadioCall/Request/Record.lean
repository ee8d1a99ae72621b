/-
This file writes requests as records: the form of a request holds its fields as
documents, and its record is the record of that form.
-/

import RadioCall.Request.Form

namespace RadioCall

/-- A location as a record. -/
def Bra.record (bra : Bra) : Document :=
  .record
    [("bearing".toList, .integer bra.bearing),
     ("range".toList, .integer bra.range),
     ("altitude".toList, .integer bra.altitude)]

namespace Request

/-- The fields that belong to the kind of a request. -/
def ownFields : Request → List (Text × Document)
  | alphaCheck _ => []
  | bogeyDope _ filter => [("filter".toList, .text filter.name)]
  | declare _ bra isBullseye =>
    [("bra".toList, bra.record), ("is_bullseye".toList, .boolean isBullseye)]
  | picture _ radius => [("radius".toList, (radius.map Document.integer).getD .null)]
  | radioCheck _ => []
  | spiked _ bearing => [("bearing".toList, .integer bearing)]
  | snaplock _ bra => [("bra".toList, bra.record)]

/-- A request as a form in which every value fits its field. -/
def form (request : Request) : RequestForm :=
  ⟨request.word, ("callsign".toList, .text request.callsign) :: request.ownFields⟩

/-- A request as a record. -/
def record (request : Request) : Document :=
  request.form.record

end Request

end RadioCall
