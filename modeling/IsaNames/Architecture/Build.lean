import IsaNames.Architecture
import IsaNames.Declaration
import IsaNames.Lexicon.Draft

/-!
# Building an architecture

A declaration is turned into lexicons in a fixed order, and the first thing that is wrong ends the
work.  Registers come first: the numbered names of all banks, then the names in the calling
convention, then the names that registers are shown by, then the check that every register is shown
by a name.  The mnemonics follow: the generic ones from opcode zero on, then those of the
architecture from the base it declares.

## Main definitions

* `Numbered` — a register with its numbered name and whether it is shown by it.
* `Declaration.buildRegisters`, `Declaration.buildOpcodes` — the two lexicons.
* `Declaration.build` — the architecture.
-/

namespace IsaNames

/-! ### Registers -/

/-- A register ID, its numbered name, and whether it is to be shown by a name in the calling
convention. -/
structure Numbered where
  id : Int
  name : String
  showsConvention : Bool
  deriving DecidableEq, Repr

/-- The registers of a bank whose first one has the ID `first`. -/
def Bank.numbered (b : Bank) (first : Int) : List Numbered :=
  b.names.zipIdx.map fun (name, i) => ⟨first + i, name, b.showsConvention⟩

/-- Enters numbered names into a draft. -/
def assignNumbered (draft : Lexicon.Draft) (registers : List Numbered) :
    Except Flaw Lexicon.Draft :=
  registers.foldlM (fun d r => d.assign r.name r.id) draft

/-- Lays banks out one after the other from the ID `first` on and enters their names. -/
def layBanks (draft : Lexicon.Draft) (first : Int) :
    List Bank → Traced (Lexicon.Draft × List IdRange × List Numbered)
  | [] => pure (draft, [], [])
  | bank :: rest => do
    let range ← Traced.ranged (IdRange.make first bank.count)
    let registers := bank.numbered first
    let draft ← Traced.flawed (assignNumbered draft registers)
    let (draft, ranges, others) ← layBanks draft (first + bank.count) rest
    return (draft, range :: ranges, registers ++ others)

/-- Enters names of the calling convention in order, and tells which IDs they went to. -/
def overlayNames (draft : Lexicon.Draft) :
    List (String × String) → Except Flaw (Lexicon.Draft × List (Int × String))
  | [] => .ok (draft, [])
  | (name, target) :: rest => do
    let (draft, id) ← draft.link name target
    let (draft, others) ← overlayNames draft rest
    return (draft, (id, name) :: others)

/-- The name that a register is to be shown by: its numbered one or else the first one that the
calling convention has for it. -/
def Numbered.shownBy? (r : Numbered) (convention : List (Int × String)) : Option String :=
  if r.showsConvention then convention.lookup r.id else some r.name

/-- Makes each register be shown by the name it is to be shown by, if there is one. -/
def showRegisters (draft : Lexicon.Draft) (convention : List (Int × String))
    (registers : List Numbered) : Except Flaw Lexicon.Draft :=
  registers.foldlM (fun d r =>
    match r.shownBy? convention with
    | some name => d.setDisplay r.id name
    | none => .ok d) draft

/-- The lexicon of the registers and the ranges of the banks. -/
def Declaration.buildRegisters (d : Declaration) : Traced (Lexicon × List IdRange) := do
  let draft := Lexicon.Draft.empty Miss.register Lexicon.registerFallback true (some d.name)
  let (draft, banks, registers) ← layBanks draft d.registerBase d.banks
  let (draft, convention) ← Traced.flawed (overlayNames draft d.conventionNames)
  let draft ← Traced.flawed (showRegisters draft convention registers)
  let range ← Traced.ranged d.registerRange
  draft.validate range
  return (draft.closed, banks)

/-! ### Opcodes -/

/-- The lexicon of the mnemonics, the generic ones included. -/
def Declaration.buildOpcodes (d : Declaration) (generic : List String) : Except Flaw Lexicon := do
  if d.opcodeBase < (genericRange generic).stop then
    throw ⟨.opcodesInGeneric d.opcodeBase (genericRange generic), some d.name⟩
  let draft := Lexicon.Draft.empty Miss.instruction Lexicon.opcodeFallback true (some d.name)
  let draft ← draft.declareFrom 0 generic
  let draft ← draft.declareFrom d.opcodeBase d.mnemonics
  return draft.closed

/-! ### The whole -/

/-- The architecture of a declaration together with the given generic mnemonics. -/
def Declaration.build (d : Declaration) (generic : List String) : Traced Architecture := do
  let (registers, banks) ← d.buildRegisters
  let opcodes ← Traced.flawed (d.buildOpcodes generic)
  let registerRange ← Traced.ranged d.registerRange
  let opcodeRange ← Traced.ranged d.opcodeRange
  return { name := d.name, registerRange, opcodeRange, genericRange := genericRange generic,
           banks, registers, opcodes }

end IsaNames
