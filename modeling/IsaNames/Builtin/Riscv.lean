import IsaNames.Architecture.Build
import IsaNames.Builtin.Generic

/-!
# RISC-V

Integer registers `x0` to `x31` and floating-point registers `f0` to `f31`, both shown by their
names in the calling convention, and the RV32I mnemonics.

## Main definitions

* `Builtin.riscv` — the declaration.
* `Riscv.isRegister`, `Riscv.shownRegister`, `Riscv.registerNumber` — questions about a text that
  may name a register.
-/

namespace IsaNames.Builtin

namespace Riscv

/-- The convention's names of the integer registers.  `s0` and `fp` are the same one. -/
def integerNames : List (String × String) :=
  [("zero", "x0"), ("ra", "x1"), ("sp", "x2"), ("gp", "x3"), ("tp", "x4"),
   ("t0", "x5"), ("t1", "x6"), ("t2", "x7"),
   ("s0", "x8"), ("fp", "x8"), ("s1", "x9"),
   ("a0", "x10"), ("a1", "x11"), ("a2", "x12"), ("a3", "x13"), ("a4", "x14"), ("a5", "x15"),
   ("a6", "x16"), ("a7", "x17"),
   ("s2", "x18"), ("s3", "x19"), ("s4", "x20"), ("s5", "x21"), ("s6", "x22"), ("s7", "x23"),
   ("s8", "x24"), ("s9", "x25"), ("s10", "x26"), ("s11", "x27"),
   ("t3", "x28"), ("t4", "x29"), ("t5", "x30"), ("t6", "x31")]

/-- Names of `count` floating-point registers, numbered from `i` on, for `f` with the number plus
`shift`. -/
def floatRun (stem : String) (i count shift : Nat) : List (String × String) :=
  (List.range' i count).map fun k => (stem ++ toString k, "f" ++ toString (shift + k))

/-- The convention's names of the floating-point registers. -/
def floatNames : List (String × String) :=
  floatRun "ft" 0 8 0 ++ floatRun "fs" 0 2 8 ++ floatRun "fa" 0 8 10 ++
    floatRun "fs" 2 10 16 ++ floatRun "ft" 8 4 20

/-- The mnemonics in the order of their opcodes, by instruction format; new ones go to the end. -/
def mnemonics : List String :=
  ["add", "sub", "sll", "slt", "sltu", "xor", "srl", "sra", "or", "and"] ++
  ["addi", "slti", "sltiu", "xori", "ori", "andi", "slli", "srli", "srai",
   "lb", "lh", "lw", "lbu", "lhu", "jalr"] ++
  ["sb", "sh", "sw"] ++
  ["beq", "bne", "blt", "bge", "bltu", "bgeu"] ++
  ["lui", "auipc", "jal"] ++
  ["ecall", "ebreak", "fence", "fence.i"]

end Riscv

/-- The declaration of RISC-V. -/
def riscv : Declaration where
  name := "riscv"
  registerBase := 15 * 1024
  banks := [⟨"x", 32, true⟩, ⟨"f", 32, true⟩]
  conventionNames := Riscv.integerNames ++ Riscv.floatNames
  opcodeBase := 7 * 2048
  mnemonics := Riscv.mnemonics

namespace Riscv

/-! ### Texts that may name a register -/

/-- The architecture on its own, outside of any shared space. -/
def architecture : Except Fault Architecture := (riscv.build generic).outcome

/-- The ID of the register that a text names. -/
def registerId (text : String) : Except Fault Int := do
  ((← architecture).registers.idOf text).mapError Fault.miss

/-- Whether a text names a register. -/
def isRegister (text : String) : Bool :=
  architecture.toOption.any (·.registers.contains text)

/-- The name that the register named by a text is shown by. -/
def shownRegister (text : String) : Except Fault String := do
  Fault.write ((← architecture).registers.display (← registerId text))

/-- The number, in its bank, of the register named by a text. -/
def registerNumber (text : String) : Except Fault Int := do
  ((← architecture).indexOf (← registerId text)).mapError Fault.badRange

end Riscv

end IsaNames.Builtin
