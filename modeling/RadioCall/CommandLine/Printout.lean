/-
This file defines what is printed: a record on a line of its own for each transmission
that is not blank, and for each stack. A fault ends the printing; what was printed before
it stands.
-/

import RadioCall.Altitude
import RadioCall.Controller
import RadioCall.Json.Writer
import RadioCall.Request.Record

namespace RadioCall

/-! ### Printouts -/

/-- What is printed, and the result or fault that comes after it. -/
structure Printout (α : Type) where
  output : Text
  result : Except Fault α

namespace Printout

/-- Nothing is printed before the result. -/
def silent {α : Type} (value : α) : Printout α := ⟨[], .ok value⟩

/-- Nothing is printed before the fault. -/
def fault {α : Type} (cause : Fault) : Printout α := ⟨[], .error cause⟩

/-- A printout with a line in front. -/
def after {α : Type} (line : Text) (others : Printout α) : Printout α :=
  ⟨line ++ '\n' :: others.output, others.result⟩

/-- A printout with its result changed. -/
def map {α β : Type} (change : α → β) (printout : Printout α) : Printout β :=
  ⟨printout.output, printout.result.map change⟩

end Printout

/-! ### Transmissions -/

/-- The record of a failure: the text of the transmission without the blanks around it,
and the reason. -/
def Failure.record (failure : Failure) (text : Text) : Document :=
  .record [("text".toList, .text (trim text)), ("failure".toList, .text failure.name)]

/-- The record of what became of a transmission. -/
def Outcome.record (text : Text) : Outcome → Document
  | accepted request => request.record
  | notAddressed => Failure.notAddressed.record text
  | noTrigger => Failure.noTrigger.record text
  | invalidCallsign => Failure.invalidCallsign.record text
  | invalidRequest _ => Failure.invalidRequest.record text

namespace Controller

/-- The line that is printed of a transmission, and whether it failed. -/
def recordLine (controller : Controller) (text : Text) : Except Fault (Text × Bool) := do
  let outcome ← controller.parse text
  .ok (← Json.line (outcome.record text), outcome.failure?.isSome)

/-- Prints the records of transmissions and counts those that failed. -/
def printRecords (controller : Controller) : List Text → Printout Nat
  | [] => .silent 0
  | text :: rest =>
    if (trim text).isEmpty then controller.printRecords rest
    else
      match controller.recordLine text with
      | .error cause => .fault cause
      | .ok (line, hasFailed) =>
        ((controller.printRecords rest).map fun failures =>
          if hasFailed then failures + 1 else failures).after line

end Controller

/-! ### Stacks -/

namespace Stack

/-- The record of a stack. -/
def record (stack : Stack) : Document :=
  .record [("altitude".toList, .integer stack.altitude), ("count".toList, .integer stack.count)]

/-- Prints the records of stacks. -/
def printRecords : List Stack → Printout Unit
  | [] => .silent ()
  | stack :: rest =>
    match Json.line stack.record with
    | .error cause => .fault cause
    | .ok line => (printRecords rest).after line

end Stack

end RadioCall
