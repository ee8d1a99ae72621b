/-
This file defines the requests that a pilot can make of a controller. Each request
carries the callsign of the aircraft that asks and the fields that belong to its kind.
-/

import RadioCall.Text.CodeTable

namespace RadioCall

/-! ### Kinds of request -/

/-- The seven kinds of request, in the order in which phrases of equal length are tried. -/
inductive RequestWord
  | alphaCheck
  | bogeyDope
  | declare
  | picture
  | radioCheck
  | spiked
  | snaplock
  deriving DecidableEq, Repr

namespace RequestWord

/-- All kinds of request, in order. -/
def all : List RequestWord :=
  [alphaCheck, bogeyDope, declare, picture, radioCheck, spiked, snaplock]

/-- The name of a kind of request. -/
def name : RequestWord → Text
  | alphaCheck => "alpha_check".toList
  | bogeyDope => "bogey_dope".toList
  | declare => "declare".toList
  | picture => "picture".toList
  | radioCheck => "radio_check".toList
  | spiked => "spiked".toList
  | snaplock => "snaplock".toList

/-- The kind of request with this name. -/
def ofName? (name : Text) : Option RequestWord :=
  all.find? fun request => request.name == name

end RequestWord

/-! ### Contact categories -/

/-- The kinds of aircraft that a bogey dope can ask for. -/
inductive ContactCategory
  | everything
  | airplanes
  | fighters
  | helicopters
  deriving DecidableEq, Repr

namespace ContactCategory

/-- All contact categories. -/
def all : List ContactCategory :=
  [everything, airplanes, fighters, helicopters]

/-- The name of a contact category. -/
def name : ContactCategory → Text
  | everything => "everything".toList
  | airplanes => "airplanes".toList
  | fighters => "fighters".toList
  | helicopters => "helicopters".toList

/-- The contact category with this name. -/
def ofName? (name : Text) : Option ContactCategory :=
  all.find? fun category => category.name == name

end ContactCategory

/-! ### Requests -/

/-- Where a contact is: its bearing in degrees, its range in nautical miles and its
altitude in feet. -/
structure Bra where
  bearing : Int
  range : Int
  altitude : Int
  deriving DecidableEq, Repr

/-- A request with the callsign of the aircraft that makes it. -/
inductive Request
  /-- Asks for the own position from the bullseye. -/
  | alphaCheck (callsign : Text)
  /-- Asks for the nearest hostile contact of a category. -/
  | bogeyDope (callsign : Text) (filter : ContactCategory)
  /-- Asks for the identity of a contact, placed from the aircraft or from the bullseye. -/
  | declare (callsign : Text) (bra : Bra) (isBullseye : Bool)
  /-- Asks for a summary of the air picture, within a radius in nautical miles if given. -/
  | picture (callsign : Text) (radius : Option Int)
  /-- Asks whether the controller hears the aircraft. -/
  | radioCheck (callsign : Text)
  /-- Reports a radar warning along a bearing in degrees. -/
  | spiked (callsign : Text) (bearing : Int)
  /-- Asks for a quick declaration of a radar lock. -/
  | snaplock (callsign : Text) (bra : Bra)
  deriving DecidableEq, Repr

namespace Request

/-- The kind of a request. -/
def word : Request → RequestWord
  | alphaCheck _ => .alphaCheck
  | bogeyDope _ _ => .bogeyDope
  | declare _ _ _ => .declare
  | picture _ _ => .picture
  | radioCheck _ => .radioCheck
  | spiked _ _ => .spiked
  | snaplock _ _ => .snaplock

/-- The callsign of the aircraft that makes a request. -/
def callsign : Request → Text
  | alphaCheck callsign => callsign
  | bogeyDope callsign _ => callsign
  | declare callsign _ _ => callsign
  | picture callsign _ => callsign
  | radioCheck callsign => callsign
  | spiked callsign _ => callsign
  | snaplock callsign _ => callsign

end Request

end RadioCall
