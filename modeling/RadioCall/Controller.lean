/-
This file reads transmissions addressed to one controller. A transmission is a wake
word, a callsign, a trigger phrase and the fields of the request that the phrase
announces. The wake word is the callsign of the controller or the universal alias; the
trigger is the longest phrase that ends where, for the first time, any phrase ends.
-/

import RadioCall.Field
import RadioCall.Transmission
import RadioCall.Vocabulary.Basic

namespace RadioCall

/-! ### Outcomes -/

/-- Why a transmission is not a request. -/
inductive Failure
  | notAddressed
  | noTrigger
  | invalidCallsign
  | invalidRequest
  deriving DecidableEq, Repr

/-- The name of a failure. -/
def Failure.name : Failure → Text
  | notAddressed => "not_addressed".toList
  | noTrigger => "no_trigger".toList
  | invalidCallsign => "invalid_callsign".toList
  | invalidRequest => "invalid_request".toList

/-- What becomes of a transmission. A request that does not fit its grammar still tells
who made it. -/
inductive Outcome
  | accepted (request : Request)
  | notAddressed
  | noTrigger
  | invalidCallsign
  | invalidRequest (callsign : Text)
  deriving DecidableEq, Repr

namespace Outcome

/-- The request, if there is one. -/
def request? : Outcome → Option Request
  | accepted request => some request
  | _ => none

/-- The failure, if there is one. -/
def failure? : Outcome → Option Failure
  | accepted _ => none
  | notAddressed => some .notAddressed
  | noTrigger => some .noTrigger
  | invalidCallsign => some .invalidCallsign
  | invalidRequest _ => some .invalidRequest

/-- The callsign, empty if the transmission was given up before it was decoded. -/
def callsign : Outcome → Text
  | accepted request => request.callsign
  | invalidRequest callsign => callsign
  | _ => []

end Outcome

/-! ### Triggers -/

/-- A trigger found in a list of tokens: the request it announces, the tokens before the
phrase and the tokens after it. -/
structure TriggerMatch where
  request : RequestWord
  segment : List Text
  rest : List Text
  deriving DecidableEq, Repr

/-- Whether the tokens heard so far, latest first, end with the phrase of a trigger. -/
def Trigger.endsAt (trigger : Trigger) (heard : List Text) : Bool :=
  trigger.phrase.reverse.isPrefixOf heard

namespace Vocabulary

/-- Reads on until the tokens heard, latest first, end with a phrase. -/
def scanFrom (vocabulary : Vocabulary) (heard : List Text) : List Text → Option TriggerMatch
  | [] => none
  | token :: rest =>
    match vocabulary.triggers.find? fun trigger => trigger.endsAt (token :: heard) with
    | some trigger =>
      some ⟨trigger.request, ((token :: heard).drop trigger.phrase.length).reverse, rest⟩
    | none => scanFrom vocabulary (token :: heard) rest

/-- The first trigger of a list of tokens. -/
def scan (vocabulary : Vocabulary) (tokens : List Text) : Option TriggerMatch :=
  vocabulary.scanFrom [] tokens

/-! ### Requests -/

/-- Reads the fields of a request. -/
def readRequest (vocabulary : Vocabulary) (word : RequestWord) (callsign : Text)
    (tokens : List Text) : Except Fault (Option Request) :=
  match word with
  | .alphaCheck => .ok (some (.alphaCheck callsign))
  | .radioCheck => .ok (some (.radioCheck callsign))
  | .bogeyDope =>
    let category := tokens.head?.bind vocabulary.category?
    .ok (some (.bogeyDope callsign (category.getD .everything)))
  | .picture =>
    if tokens.head?.any vocabulary.isNumber then
      (vocabulary.readNumber tokens).result.map fun radius =>
        some (.picture callsign (radius.map Int.ofNat))
    else .ok (some (.picture callsign none))
  | .spiked =>
    (vocabulary.readBearing tokens).result.map fun bearing =>
      bearing.map fun degrees => .spiked callsign (Int.ofNat degrees)
  | .declare =>
    let (isBullseye, rest) := readKeyword bullseyeWord tokens
    (vocabulary.readBra rest).result.map fun bra =>
      bra.map fun location => .declare callsign location isBullseye
  | .snaplock =>
    (vocabulary.readBra tokens).result.map fun bra =>
      bra.map fun location => .snaplock callsign location

end Vocabulary

/-! ### Controllers -/

/-- A controller: its callsign in the form in which it is heard, and the vocabulary in
use. -/
structure Controller where
  callsign : Text
  vocabulary : Vocabulary
  deriving DecidableEq, Repr

/-- How far a transmission was understood. -/
inductive Hearing
  | notAddressed
  | noTrigger
  | noCallsign (segment : List Text)
  | noRequest (word : RequestWord) (callsign : Text)
  | understood (request : Request)
  deriving DecidableEq, Repr

/-- What becomes of a transmission that was understood so far. -/
def Hearing.outcome : Hearing → Outcome
  | notAddressed => .notAddressed
  | noTrigger => .noTrigger
  | noCallsign _ => .invalidCallsign
  | noRequest _ callsign => .invalidRequest callsign
  | understood request => .accepted request

namespace Controller

/-- The controller of a callsign, which must be a single word once it is brought into
the form in which transmissions are read. -/
def ofCallsign (given : Text) (vocabulary : Vocabulary) : Except Fault Controller := do
  match ← tokens given with
  | [callsign] => .ok ⟨callsign, vocabulary⟩
  | _ => .error (.callsignNotOneWord given)

/-- Whether a token addresses the controller. -/
def isWakeWord (controller : Controller) (token : Text) : Bool :=
  token = controller.callsign || token = controller.vocabulary.universalAlias

/-- Reads the tokens after the wake word. -/
def hearAddressed (controller : Controller) (tokens : List Text) : Except Fault Hearing :=
  match controller.vocabulary.scan tokens with
  | none => .ok .noTrigger
  | some found =>
    let callsign := controller.vocabulary.decodeCallsign found.segment
    if callsign.isValid then
      (controller.vocabulary.readRequest found.request callsign.text found.rest).map fun request =>
        (request.map Hearing.understood).getD (.noRequest found.request callsign.text)
    else .ok (.noCallsign found.segment)

/-- Reads the tokens of a transmission. -/
def hearTokens (controller : Controller) : List Text → Except Fault Hearing
  | [] => .ok .notAddressed
  | first :: rest =>
    if controller.isWakeWord first then controller.hearAddressed rest else .ok .notAddressed

/-- Reads a transmission. -/
def hear (controller : Controller) (text : Text) : Except Fault Hearing := do
  controller.hearTokens (← tokens text)

/-- What becomes of a transmission. -/
def parse (controller : Controller) (text : Text) : Except Fault Outcome :=
  Hearing.outcome <$> controller.hear text

end Controller

end RadioCall
