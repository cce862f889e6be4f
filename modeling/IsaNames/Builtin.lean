import IsaNames.Builtin.Generic
import IsaNames.Builtin.Mips
import IsaNames.Builtin.Riscv

/-!
# Built-in architectures

## Main definitions

* `Builtin.declarations` — the architectures that a program knows from the start.
-/

namespace IsaNames.Builtin

/-- The built-in architectures in the order of their registration. -/
def declarations : List Declaration := [mips, riscv]

end IsaNames.Builtin
