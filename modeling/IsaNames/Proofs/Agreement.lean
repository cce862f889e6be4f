import IsaNames.Proofs.Dispatch
import IsaNames.Proofs.Startup

/-!
# The directory and its architectures agree

An ID is spelled out both by the directory and by the architecture that has names for it.  The four
tables that take part are made separately: the two lexicons of the architecture, the second of which
has its own copy of the generic mnemonics, the lexicon of these in the space, and the charts.  They
agree nevertheless, and names and IDs lead back to each other.

## Main definitions

* `Architecture.AgreesWith` — an architecture and a directory tell the same.

## Main results

* `Architecture.Complete.agreesWith` — a complete architecture agrees with a directory that holds its
  ranges.
* `Startup.directory_agrees` — **the directory of a start agrees with each of its architectures.**
-/

namespace IsaNames

variable {ε : Type}

/-- An architecture and a directory tell the same about the IDs of the architecture and of `generic`
mnemonics, and no ID of these is without a name. -/
structure Architecture.AgreesWith (a : Architecture) (dir : Directory ε) (generic : List String) :
    Prop where
  /-- The ID of a register name is the architecture's, is spelled out the same by both, and is what
  the spelling stands for. -/
  register : ∀ name id, a.registers.idOf name = .ok id →
    dir.registerOwner? id = some a.name ∧ ∀ state,
      dir.showRegister state id = a.registers.display id ∧
      ∃ text, (dir.showRegister state id).write? = some text ∧ a.registers.idOf text = .ok id
  /-- So is the opcode of a mnemonic, which is generic or the architecture's own. -/
  opcode : ∀ name id, a.opcodes.idOf name = .ok id →
    ((0 ≤ id ∧ id < generic.length) ∧ dir.opcodeOwner? id = some "generic" ∨
      id ∈ a.opcodeRange ∧ dir.opcodeOwner? id = some a.name) ∧ ∀ state,
      dir.showOpcode state id = a.opcodes.display id ∧
      ∃ text, (dir.showOpcode state id).write? = some text ∧ a.opcodes.idOf text = .ok id
  register_named : ∀ id : Int, id ∈ a.registerRange → ∃ name, a.registers.idOf name = .ok id
  opcode_named : ∀ id : Int, (0 ≤ id ∧ id < generic.length) ∨ id ∈ a.opcodeRange →
    ∃ name, a.opcodes.idOf name = .ok id

/-- A complete architecture agrees with a directory that holds its ranges and the generic
mnemonics. -/
theorem Architecture.Complete.agreesWith {a : Architecture} {generic : List String}
    (ha : a.Complete generic) {dir : Directory ε} {registers opcodes : List (Holding ε)}
    (hregs : Apart registers) (hdirRegs : dir.registers = .ofList registers) (hops : Apart opcodes)
    (hdirOps : dir.opcodes = .ofList opcodes) (hreg : a.registerHolding ∈ registers)
    (hop : a.opcodeHolding ∈ opcodes) (hgeneric : genericHolding generic ∈ opcodes) :
    a.AgreesWith dir generic := by
  refine ⟨?_, ?_, ?_, ?_⟩
  · intro name id hid
    have hrange := ha.register_mem name id hid
    have hshow : ∀ state, dir.showRegister state id = a.registers.display id := by
      intro state
      rw [Directory.showRegister, hdirRegs]
      exact Chart.spell_ofList hregs hreg hrange _ state
    refine ⟨?_, fun state => ⟨hshow state, ?_⟩⟩
    · rw [Directory.registerOwner?, hdirRegs]
      exact Chart.owner_ofList hregs hreg hrange
    · rw [hshow]
      exact ha.registers_sound.idOf_display (ha.register_shown id hrange)
  · intro name id hid
    have hmem := ha.opcode_mem name id hid
    -- a generic opcode is spelled out by the lexicon of the space, which shows it as this one does
    have hheld : ((0 ≤ id ∧ id < generic.length) ∧ dir.opcodeOwner? id = some "generic" ∨
        id ∈ a.opcodeRange ∧ dir.opcodeOwner? id = some a.name) ∧
        ∀ state, dir.showOpcode state id = a.opcodes.display id := by
      rw [Directory.opcodeOwner?, hdirOps]
      rcases hmem with hmem | hmem
      · refine ⟨Or.inl ⟨mem_genericRange_iff.mp hmem, Chart.owner_ofList hops hgeneric hmem⟩, ?_⟩
        intro state
        rw [Directory.showOpcode, hdirOps, ha.generic_display SharedSpace.genericOwner id hmem]
        exact Chart.spell_ofList hops hgeneric hmem _ state
      · refine ⟨Or.inr ⟨hmem, Chart.owner_ofList hops hop hmem⟩, ?_⟩
        intro state
        rw [Directory.showOpcode, hdirOps]
        exact Chart.spell_ofList hops hop hmem _ state
    refine ⟨hheld.1, fun state => ⟨hheld.2 state, ?_⟩⟩
    rw [hheld.2]
    exact ha.opcodes_sound.idOf_display (ha.opcode_shown id hmem)
  · intro id hid
    obtain ⟨text, -, htext⟩ := ha.registers_sound.idOf_display (ha.register_shown id hid)
    exact ⟨text, htext⟩
  · intro id hid
    rw [← mem_genericRange_iff] at hid
    obtain ⟨text, -, htext⟩ := ha.opcodes_sound.idOf_display (ha.opcode_shown id hid)
    exact ⟨text, htext⟩

namespace Startup

/-- **The directory of a start agrees with each of its architectures**, which are what its
declarations are built into, in order. -/
theorem directory_agrees {generic : List String} {declarations : List Declaration}
    {dir : Directory ε} (h : (ofDeclarations generic declarations).outcome = .ok dir) :
    List.Forall₂ (fun d a => (Provider.build generic { declaration := d }).2.outcome = .ok a)
        declarations dir.architectures ∧
      ∀ a ∈ dir.architectures, a.AgreesWith dir generic := by
  obtain ⟨hbuilt, ⟨hregs, hdirRegs⟩, hops, hdirOps⟩ := ofDeclarations_spec h
  refine ⟨hbuilt, fun a ha => ?_⟩
  obtain ⟨d, hd⟩ := List.exists_of_forall₂_of_mem hbuilt ha
  have hcomplete := Declaration.complete_of_build (Provider.build_of_fresh hd)
  exact hcomplete.agreesWith hregs hdirRegs hops hdirOps (List.mem_map_of_mem ha)
    (List.mem_cons_of_mem _ (List.mem_map_of_mem ha)) (List.mem_cons_self ..)

/-- Two architectures with a mnemonic in common, the first of them shown by aliases. -/
theorem directory_agrees_of_two :
    ∃ dir : Directory Unit,
      (ofDeclarations ["nop"]
        [⟨"x", 0, [⟨"r", 2, true⟩], [("zero", "r0"), ("one", "R1")], 1, ["add"]⟩,
          ⟨"y", 2, [⟨"r", 1, false⟩], [], 2, ["add"]⟩]).outcome = .ok dir ∧
      dir.architectures.map (·.name) = ["x", "y"] ∧
      ∀ a ∈ dir.architectures, a.AgreesWith dir ["nop"] := by
  have hnames : (((ofDeclarations ["nop"]
      [⟨"x", 0, [⟨"r", 2, true⟩], [("zero", "r0"), ("one", "R1")], 1, ["add"]⟩,
        ⟨"y", 2, [⟨"r", 1, false⟩], [], 2, ["add"]⟩]).outcome : Except Fault (Directory Unit)).map
          fun dir => dir.architectures.map (·.name)) = .ok ["x", "y"] := by
    decide +kernel
  cases hdir : ((ofDeclarations ["nop"]
      [⟨"x", 0, [⟨"r", 2, true⟩], [("zero", "r0"), ("one", "R1")], 1, ["add"]⟩,
        ⟨"y", 2, [⟨"r", 1, false⟩], [], 2, ["add"]⟩]).outcome : Except Fault (Directory Unit)) with
  | error e =>
    rw [hdir] at hnames
    cases hnames
  | ok dir =>
    rw [hdir] at hnames
    exact ⟨dir, rfl, Except.ok.inj hnames, (directory_agrees hdir).2⟩

end Startup

end IsaNames
