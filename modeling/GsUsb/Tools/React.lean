/-
# `gsusb_react`

The loop that watches for one `can_id` and answers it.
-/

import GsUsb.Tools.Dump
import GsUsb.Tools.Transmit

namespace GsUsb.Tools

open GsUsb.Driver

section Answers

variable {ch : Channel} {keyId respId : UInt32} {bulk : ℕ → BulkOut → ℤ × ℕ}

end Answers

end GsUsb.Tools
