import IsaNames.Architecture
import IsaNames.Holding

/-!
# Directories

The closed space of IDs, in which IDs are looked up: who owns an ID, how it is spelled out, which
architectures there are, and what a name stands for in one of them.

## Main definitions

* `Directory` — the charts of registers and opcodes and the architectures.
* `Directory.showRegister`, `Directory.showOpcode` — how an ID is spelled out.
* `Directory.architecture` — an architecture by name.
-/

namespace IsaNames

/-- The closed space of IDs. -/
structure Directory (ε : Type) where
  registers : Chart ε
  opcodes : Chart ε
  architectures : List Architecture

namespace Directory

variable {ε : Type}

/-! ### From IDs -/

/-- How a chart spells out an ID: the fallback followed by the ID if nobody owns it. -/
def spell (c : Chart ε) (fallback : String) (state : ε) (id : Int) : Text.Phrase :=
  match c.find? id with
  | some h => h.namer state id
  | none => fallbackPhrase fallback id

/-- How a register is spelled out. -/
def showRegister (d : Directory ε) (state : ε) (id : Int) : Text.Phrase :=
  spell d.registers Lexicon.registerFallback state id

/-- How an opcode is spelled out. -/
def showOpcode (d : Directory ε) (state : ε) (id : Int) : Text.Phrase :=
  spell d.opcodes Lexicon.opcodeFallback state id

/-- The owner of a register. -/
def registerOwner? (d : Directory ε) (id : Int) : Option String :=
  (d.registers.find? id).map (·.owner)

/-- The owner of an opcode. -/
def opcodeOwner? (d : Directory ε) (id : Int) : Option String :=
  (d.opcodes.find? id).map (·.owner)

/-- The ranges of registers that were handed out, empty ones left out, with their owners. -/
def registerRanges (d : Directory ε) : List (String × IdRange) := d.registers.ranges

/-- The ranges of opcodes that were handed out, empty ones left out, with their owners. -/
def opcodeRanges (d : Directory ε) : List (String × IdRange) := d.opcodes.ranges

/-! ### From names -/

/-- The names of the architectures in the order of their registration. -/
def names (d : Directory ε) : List String := d.architectures.map (·.name)

/-- The architecture whose name is the key of the given one. -/
def architecture (d : Directory ε) (name : String) : Except Miss Architecture :=
  match d.architectures.find? fun a => a.name == Text.key true name with
  | some a => .ok a
  | none => .error ⟨Miss.architecture, name⟩

/-- The ID of a register of an architecture. -/
def registerId (d : Directory ε) (architecture name : String) : Except Miss Int := do
  (← d.architecture architecture).registers.idOf name

/-- The opcode of a mnemonic of an architecture, generic ones included. -/
def opcodeId (d : Directory ε) (architecture name : String) : Except Miss Int := do
  (← d.architecture architecture).opcodes.idOf name

end Directory

end IsaNames
