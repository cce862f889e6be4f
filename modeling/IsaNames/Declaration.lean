import IsaNames.IdRange

/-!
# Declarations of architectures

What an architecture states about itself: banks of numbered registers, the other names of registers,
and its mnemonics.

## Main definitions

* `Bank` — registers numbered from zero after a common stem.
* `registerTotal` — how many registers banks have.
* `Declaration` — the whole.
* `Declaration.registerRange`, `Declaration.opcodeRange` — the ranges of IDs it asks for.
* `genericRange` — the opcodes that all architectures share.
-/

namespace IsaNames

/-- Registers called by a stem and their number in the bank. -/
structure Bank where
  stem : String
  count : Int
  /-- Whether the registers are shown by their names in the calling convention. -/
  showsConvention : Bool := false
  deriving DecidableEq, Repr

/-- The names of the registers, none if the count is negative. -/
def Bank.names (b : Bank) : List String :=
  (List.range b.count.toNat).map fun i => b.stem ++ toString i

/-- How many registers banks have together. -/
def registerTotal : List Bank → Int
  | [] => 0
  | bank :: rest => bank.count + registerTotal rest

/-- What an architecture states about itself. -/
structure Declaration where
  name : String
  /-- The ID of the first register; the banks follow each other from there. -/
  registerBase : Int
  banks : List Bank
  /-- Names in the calling convention, each with a register name declared before it; the first one
  for a register is preferred. -/
  conventionNames : List (String × String)
  /-- The opcode of the first mnemonic. -/
  opcodeBase : Int
  mnemonics : List String
  deriving DecidableEq, Repr

namespace Declaration

/-- The IDs of all registers. -/
def registerRange (d : Declaration) : Except BadRange IdRange :=
  IdRange.make d.registerBase (registerTotal d.banks)

/-- The opcodes of the mnemonics that are not generic. -/
def opcodeRange (d : Declaration) : Except BadRange IdRange :=
  IdRange.make d.opcodeBase d.mnemonics.length

end Declaration

/-- The opcodes of the generic mnemonics: the first ones there are. -/
def genericRange (generic : List String) : IdRange := ⟨0, generic.length⟩

end IsaNames
