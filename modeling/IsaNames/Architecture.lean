import IsaNames.Lexicon

/-!
# Architectures

A finished architecture: its ranges and its two lexicons, one of register names and one of
mnemonics, the generic ones included.

## Main definitions

* `Architecture` — the parts.
* `Architecture.indexOf` — the number of a register in its bank.
-/

namespace IsaNames

/-- The finished tables of an architecture. -/
structure Architecture where
  name : String
  registerRange : IdRange
  opcodeRange : IdRange
  genericRange : IdRange
  banks : List IdRange
  registers : Lexicon
  opcodes : Lexicon
  deriving DecidableEq, Repr, Inhabited

namespace Architecture

/-- The number that a register has in its bank. -/
def indexOf (a : Architecture) (id : Int) : Except BadRange Int :=
  match a.banks.find? fun bank => id ∈ bank with
  | some bank => bank.offset id
  | none => .error (.noBank id a.name)

end Architecture

end IsaNames
