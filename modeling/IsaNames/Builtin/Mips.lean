import IsaNames.Declaration

/-!
# MIPS32

General registers `r0` to `r31`, shown by their o32 names, floating-point registers `f0` to `f31`,
and the core mnemonics.
-/

namespace IsaNames.Builtin

namespace Mips

/-- The names `stem0`, `stem1`, … for `count` registers from `first` on. -/
def run (stem : String) (count first : Nat) : List (String × String) :=
  (List.range count).map fun i => (stem ++ toString i, "r" ++ toString (first + i))

/-- The o32 names.  `fp` and `s8` are the same register, shown as `fp`. -/
def conventionNames : List (String × String) :=
  [("zero", "r0"), ("at", "r1"), ("v0", "r2"), ("v1", "r3")] ++
    run "a" 4 4 ++ run "t" 8 8 ++ run "s" 8 16 ++
    [("t8", "r24"), ("t9", "r25"), ("k0", "r26"), ("k1", "r27"), ("gp", "r28"), ("sp", "r29"),
     ("fp", "r30"), ("s8", "r30"), ("ra", "r31")]

/-- The mnemonics in the order of their opcodes. -/
def mnemonics : List String :=
  ["add", "addu", "addi", "addiu", "sub", "subu",
   "and", "andi", "or", "ori", "xor", "xori", "nor",
   "slt", "slti", "sltu", "sltiu",
   "sll", "srl", "sra", "sllv", "srlv", "srav",
   "lui", "lb", "lbu", "lh", "lhu", "lw", "sb", "sh", "sw",
   "beq", "bne", "blez", "bgtz", "bltz", "bgez",
   "j", "jal", "jr", "jalr",
   "mult", "multu", "div", "divu", "mfhi", "mflo", "mthi", "mtlo",
   "syscall", "break", "sync"]

end Mips

/-- The declaration of MIPS32. -/
def mips : Declaration where
  name := "mips"
  registerBase := 13 * 1024
  banks := [⟨"r", 32, true⟩, ⟨"f", 32, false⟩]
  conventionNames := Mips.conventionNames
  opcodeBase := 5 * 2048
  mnemonics := Mips.mnemonics

end IsaNames.Builtin
