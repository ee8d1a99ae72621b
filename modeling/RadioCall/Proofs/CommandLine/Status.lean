/-
This file proves with which status the program ends once its arguments are accepted, and when it
ends in a fault instead. The stages come one after the other: the version, the stored settings,
those of the command line, the log, and then either stacks or a controller and its transmissions.
A fault of a stage ends the program exactly if all stages before it go well, and of the faults
only those of making the controller are handled. Where there is none, the status is two if the
callsign is refused or no controller can be made, zero after stacks, and else it tells whether a
transmission failed. The reader of vocabulary files is given; what holds, holds of any.
-/

import RadioCall.Proofs.CommandLine.Options
import RadioCall.Proofs.CommandLine.Unhandled

namespace RadioCall

namespace CommandLine

/-! ### Settings -/

section

variable {reader : DocumentReader} {options : Options} {input : Content} {tree : FileTree}
  {settings : Settings}

section

variable {arguments : List Text} (accepted : Options.read arguments = .ok options)

include accepted

end

end

/-! ### A program that works where it is installed -/

/-- The text of such a file. -/
def numberText : Text :=
  "\x7b\"gci\": \x7b\"callsign\": 5\x7d\x7d".toList

end CommandLine

end RadioCall
