/-!
# Generic mnemonics

Instructions that every architecture has.  The position in the list is the opcode, so new ones go to
the end; opcode zero means no instruction.
-/

namespace IsaNames.Builtin

/-- The generic mnemonics in the order of their opcodes. -/
def generic : List String :=
  ["xxx", "call", "end", "funcdata", "jmp", "nop", "pcalign", "pcdata", "ret", "text", "undef"]

end IsaNames.Builtin
