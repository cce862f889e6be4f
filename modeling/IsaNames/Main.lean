import IsaNames.Builtin
import IsaNames.CommandLine.Run

/-!
# The program

Looks up names and IDs of the built-in architectures; see `IsaNames.CommandLine.Run`.
-/

namespace IsaNames

/-- The summary that is shown for help and with a refusal. -/
def usage : String :=
  "usage: archns [-h] [--log-level LEVEL] COMMAND\n" ++
  "  reg ARCH NAME | op ARCH NAME | fmt-reg ID | fmt-op ID | dump ARCH [--opcodes]\n"

end IsaNames

open IsaNames in
/-- Runs the command line with the built-in architectures. -/
def main (args : List String) : IO UInt32 := do
  match CommandLine.run Builtin.generic Builtin.declarations args with
  | .help =>
    IO.print usage
    return 0
  | .usage =>
    IO.eprint usage
    return 2
  | .exit e =>
    IO.print e.out
    IO.eprint e.err
    return UInt32.ofNat e.code
  | .escape (.fault fault) =>
    IO.eprintln fault.message
    return 1
  | .escape .nameless =>
    IO.eprint usage
    return 1
