import IsaNames.CommandLine.Run
import IsaNames.Proofs.Admission
import IsaNames.Proofs.Dispatch
import IsaNames.Proofs.Draft
import IsaNames.Proofs.RegisterNames
import IsaNames.Proofs.Retrieval

/-!
# How a command line ends

A command line that is accepted leads to one end.  A start that fails decides it whatever the
command is.  After a start that succeeds, either a name of the command is not known, and nothing has
been printed by then, or what the command asks for is printed.  Two things have no exit code: an
integer that is to be printed and has too many digits, and a name to look up that has no text.

## Main definitions

* `Directory.Serves` — what commands rely on in the directory of a start.
* `Command.Misses`, `Command.Nameless`, `Command.Writes`, `Command.Prints` — what a command asks a
  directory for.
* `Command.Outcome` — the end of a command line, told by its start and its command.

## Main results

* `Startup.serves_of_ok`, `Startup.fault_cases` — what a start leaves, and what it can fail with.
* `Command.print_of_misses`, `Command.print_of_nameless`, `Command.print_of_writes_tooLong`,
  `Command.print_of_prints` — what a command prints in each of its cases, one of which it is in by
  `Command.cases`.
* `CommandLine.run_outcome` — **every accepted command line has the one end that its start and its
  command tell.**
-/

namespace IsaNames

open Text (leastTooLong)

variable {ε : Type}

/-! ### What a start leaves -/

/-- What commands rely on in the directory of a start: the kinds of names, which IDs are shown by
names, and which IDs can be spelled out. -/
structure Directory.Serves (dir : Directory ε) : Prop where
  names_nodup : dir.names.Nodup
  register_kind : ∀ a ∈ dir.architectures, a.registers.kind = Miss.register
  opcode_kind : ∀ a ∈ dir.architectures, a.opcodes.kind = Miss.instruction
  register_shown_iff : ∀ a ∈ dir.architectures, ∀ id : Int,
    a.registers.hasDisplay id = true ↔ id ∈ a.registerRange
  opcode_shown_iff : ∀ a ∈ dir.architectures, ∀ id : Int,
    a.opcodes.hasDisplay id = true ↔ id ∈ a.genericRange ∨ id ∈ a.opcodeRange
  showRegister_unwritable_iff : ∀ state id, (dir.showRegister state id).isWritable = false ↔
    dir.registerOwner? id = none ∧ leastTooLong ≤ id.natAbs
  showOpcode_unwritable_iff : ∀ state id, (dir.showOpcode state id).isWritable = false ↔
    dir.opcodeOwner? id = none ∧ leastTooLong ≤ id.natAbs

/-- An architecture that a name leads to is one of those listed. -/
theorem Directory.Serves.mem_of_architecture {dir : Directory ε} (hdir : dir.Serves) {name : String}
    {a : Architecture} (h : dir.architecture name = .ok a) : a ∈ dir.architectures :=
  ((Directory.architecture_eq_ok_iff hdir.names_nodup).mp h).1

/-- The kinds of the names of an architecture that was built, and the generic opcodes in it. -/
theorem Declaration.kinds_of_build {d : Declaration} {generic : List String} {a : Architecture}
    (h : (d.build generic).outcome = .ok a) : a.registers.kind = Miss.register ∧
      a.opcodes.kind = Miss.instruction ∧ a.genericRange = IsaNames.genericRange generic := by
  obtain ⟨x, ranges, hregs, -, rfl⟩ := build_eq_ok_iff.mp h
  obtain ⟨-, -, hkeys, draft, given, hover, -, rfl, -⟩ := buildRegisters_eq_ok_iff.mp hregs
  obtain ⟨-, ⟨rows, rfl, -⟩, -⟩ :=
    overlayNames_grows (P := fun _ => True) hover (sound_numberedDraft hkeys) fun _ _ => trivial
  exact ⟨rfl, rfl, rfl⟩

namespace Architecture.Complete

variable {a : Architecture} {generic : List String}

/-- The registers are the IDs that are shown by register names. -/
theorem register_shown_iff (ha : a.Complete generic) {id : Int} :
    a.registers.hasDisplay id = true ↔ id ∈ a.registerRange := by
  refine ⟨fun h => ?_, ha.register_shown id⟩
  obtain ⟨text, -, htext⟩ := ha.registers_sound.idOf_display h
  exact ha.register_mem text id htext

/-- The generic opcodes and those of the architecture are the IDs that are shown by mnemonics. -/
theorem opcode_shown_iff (ha : a.Complete generic) {id : Int} :
    a.opcodes.hasDisplay id = true ↔ id ∈ IsaNames.genericRange generic ∨ id ∈ a.opcodeRange := by
  refine ⟨fun h => ?_, ha.opcode_shown id⟩
  obtain ⟨text, -, htext⟩ := ha.opcodes_sound.idOf_display h
  exact ha.opcode_mem text id htext

end Architecture.Complete

/-- A name that an ID is shown by can be written, however long it is. -/
theorem Lexicon.isWritable_display {x : Lexicon} {id : Int} (h : x.hasDisplay id = true) :
    (x.display id).isWritable = true := by
  obtain ⟨name, hname⟩ := Option.isSome_iff_exists.mp h
  rw [display, hname]
  rfl

/-- Where namers can spell out the IDs of their ranges, an ID cannot be spelled out exactly if
nobody owns it and it is too long. -/
theorem Chart.spell_unwritable_iff {holdings : List (Holding ε)} (ha : Apart holdings)
    {state : ε} (hnamers : ∀ h ∈ holdings, ∀ id : Int, id ∈ h.range →
      (h.namer state id).isWritable = true) (fallback : String) (id : Int) :
    (Directory.spell (ofList holdings) fallback state id).isWritable = false ↔
      ((ofList holdings).find? id).map (·.owner) = none ∧ leastTooLong ≤ id.natAbs := by
  rw [Directory.spell]
  cases hfind : (ofList holdings).find? id with
  | none => simp [fallbackPhrase, Text.isWritable_eq_false_iff]
  | some h =>
    rw [find?_ofList ha] at hfind
    obtain ⟨hmem, hid⟩ := ha.scan_eq_some_iff.mp hfind
    simp [hnamers h hmem id hid]

namespace Startup

variable {generic : List String} {declarations : List Declaration}

/-- Commands can rely on the directory of a start. -/
theorem serves_of_ok {dir : Directory ε}
    (h : (ofDeclarations generic declarations).outcome = .ok dir) : dir.Serves := by
  obtain ⟨-, as, -, hcompatible, hdir⟩ := ofDeclarations_eq_ok_iff.mp h
  obtain ⟨hbuilt, ⟨hregs, hdirRegs⟩, hops, hdirOps⟩ := ofDeclarations_spec h
  have hbuild : ∀ a ∈ dir.architectures, ∃ d : Declaration, (d.build generic).outcome = .ok a := by
    intro a ha
    obtain ⟨d, hd⟩ := List.exists_of_forall₂_of_mem hbuilt ha
    exact ⟨d, Provider.build_of_fresh hd⟩
  have hcomplete : ∀ a ∈ dir.architectures, a.Complete generic := by
    intro a ha
    obtain ⟨d, hd⟩ := hbuild a ha
    exact Declaration.complete_of_build hd
  refine ⟨?_, ?_, ?_, ?_, ?_, ?_, ?_⟩
  · rw [Directory.names, List.nodup_iff_pairwise_ne, List.pairwise_map]
    rw [hdir]
    exact hcompatible.imp fun hab => hab.name_ne
  · intro a ha
    obtain ⟨d, hd⟩ := hbuild a ha
    exact (Declaration.kinds_of_build hd).1
  · intro a ha
    obtain ⟨d, hd⟩ := hbuild a ha
    exact (Declaration.kinds_of_build hd).2.1
  · intro a ha id
    exact (hcomplete a ha).register_shown_iff
  · intro a ha id
    obtain ⟨d, hd⟩ := hbuild a ha
    rw [(Declaration.kinds_of_build hd).2.2]
    exact (hcomplete a ha).opcode_shown_iff
  · intro state id
    rw [Directory.showRegister, Directory.registerOwner?, hdirRegs]
    refine Chart.spell_unwritable_iff hregs ?_ _ id
    intro k hk id hid
    obtain ⟨a, ha, rfl⟩ := List.mem_map.mp hk
    exact Lexicon.isWritable_display ((hcomplete a ha).register_shown id hid)
  · intro state id
    rw [Directory.showOpcode, Directory.opcodeOwner?, hdirOps]
    refine Chart.spell_unwritable_iff hops ?_ _ id
    intro k hk id hid
    rcases List.mem_cons.mp hk with rfl | hk
    · -- the lexicon of the space has the generic mnemonics only
      refine Lexicon.isWritable_display ?_
      rw [Lexicon.hasDisplay_iff, genericDraft, Lexicon.Draft.map_fst_displays_declared,
        List.mem_append]
      exact Or.inr (IdRange.mem_iff_mem_idsFrom.mp hid)
    · obtain ⟨a, ha, rfl⟩ := List.mem_map.mp hk
      exact Lexicon.isWritable_display ((hcomplete a ha).opcode_shown id (Or.inr hid))

end Startup

/-! ### What a start can fail with -/

/-- A flaw ends a computation with itself or, if its text cannot be written, with that fault. -/
theorem Flaw.fault_cases (f : Flaw) : f.fault = .flaw f ∨ f.fault = .numberTooLong := by
  unfold Flaw.fault
  split
  · exact .inl rfl
  · exact .inr rfl

/-- The faults that a start can end with. -/
inductive Fault.StopsStart : Fault → Prop
  | flaw (f : Flaw) : StopsStart (.flaw f)
  | badRange (b : BadRange) : StopsStart (.badRange b)
  | numberTooLong : StopsStart .numberTooLong

theorem Flaw.stopsStart (f : Flaw) : f.fault.StopsStart := by
  rcases f.fault_cases with h | h
  · rw [h]
    exact .flaw f
  · rw [h]
    exact .numberTooLong

theorem Declaration.Refusal.stopsStart {d : Declaration} {generic : List String} {e : Fault}
    (h : d.Refusal generic e) : e.StopsStart := by
  cases h with
  | flaw => exact .flaw _
  | unwritable => exact .numberTooLong
  | negativeBase => exact .badRange _
  | negativeSize => exact .badRange _

/-- A space is not created only if something is wrong with the generic mnemonics. -/
theorem SharedSpace.stopsStart_of_create {generic : List String} {e : Fault}
    (h : (create generic : Traced (SharedSpace ε)).outcome = .error e) : e.StopsStart := by
  cases hdraft : (Lexicon.Draft.empty Miss.instruction Lexicon.opcodeFallback true
      (some genericOwner)).declareFrom 0 generic with
  | error f =>
    unfold create at h
    simp only [hdraft, Traced.outcome_bind, Traced.outcome_flawed] at h
    cases h
    exact f.stopsStart
  | ok draft =>
    rw [create_eq_ok_iff.mpr ⟨draft, hdraft, rfl⟩] at h
    cases h

/-- What a new provider fails with if its architecture is not registered. -/
theorem Provider.stopsStart_of_register {d : Declaration} {s : SharedSpace ε} {e : Fault}
    (hcount : registerTotal d.banks ≤ IdRange.lengthLimit)
    (h : (register (s, { declaration := d })).2.outcome = .error e) : e.StopsStart := by
  rcases register_ends s { declaration := d } with
    ⟨a, p', -, -, -, hends⟩ | ⟨e', p', he, -, -, hends⟩
  · rw [hends.2] at h
    cases h
  rw [hends.2] at h
  cases h
  cases he with
  | registered => exact Flaw.stopsStart _
  | notAdmitted => exact Flaw.stopsStart _
  | notBuilt _ hbuild =>
    rw [outcome_build_fresh hcount] at hbuild
    exact (Declaration.build_error hbuild).stopsStart

/-- **A start fails with a flaw, with an impossible range, or with a number that cannot be
written.** -/
theorem Startup.fault_cases {generic : List String} {declarations : List Declaration} {e : Fault}
    (hcount : ∀ d ∈ declarations, registerTotal d.banks ≤ IdRange.lengthLimit)
    (h : (ofDeclarations generic declarations : Traced (Directory ε)).outcome = .error e) :
    e.StopsStart := by
  have hends : (run generic registerFresh declarations : Action Unit (Directory ε)).Ends () ()
      (.error e) := ⟨rfl, h⟩
  rcases Action.ends_within_iff.mp hends with ⟨_, hcreate, -, ⟨⟩⟩ | ⟨s, s', hcreate, hends⟩
  · exact SharedSpace.stopsStart_of_create hcreate
  rcases Action.ends_bind_error_iff.mp hends with hall | ⟨⟨⟩, ⟨⟨⟩, s₁⟩, hall, hends⟩
  · obtain ⟨earlier, d, later, s₁, rfl, -, hfault⟩ := ends_registerAll_error_iff.mp ⟨s', hall⟩
    exact Provider.stopsStart_of_register (hcount d (by simp)) hfault
  · -- once all are registered nothing fails any more
    obtain ⟨-, rfl⟩ := SharedSpace.create_eq_ok_iff_wellFormed.mp hcreate
    obtain ⟨as, hbuilt, -, hcompatible, rfl⟩ := ends_registerAll_ok_iff.mp hall
    cases (hends.unique (ends_closing (orderly_populated hbuilt hcompatible))).2

namespace CommandLine

/-! ### Printing -/

/-- Lines that can be written are all printed. -/
theorem printLines_of_writable {lines : List Text.Phrase} (h : ∀ l ∈ lines, l.isWritable = true)
    (out : String) :
    printLines out lines = ⟨out ++ String.join (lines.map fun l => onLine l.text), .ok ()⟩ := by
  induction lines generalizing out with
  | nil => simp [printLines]
  | cons line rest ih =>
    rw [List.forall_mem_cons] at h
    have hwrite : Fault.write line = .ok line.text := by simp [Fault.write, Text.Phrase.write?, h.1]
    simp only [printLines, hwrite]
    rw [ih h.2, List.map_cons, String.join_cons, String.append_assoc]

/-- The first line that cannot be written ends the printing. -/
theorem printLines_of_unwritable {lines : List Text.Phrase} {line : Text.Phrase}
    (hline : line ∈ lines) (h : line.isWritable = false) (out : String) :
    ∃ out', printLines out lines = ⟨out', .error (.inr (.fault .numberTooLong))⟩ := by
  induction lines generalizing out with
  | nil => cases hline
  | cons first rest ih =>
    cases hfirst : first.isWritable with
    | false =>
      have hwrite : Fault.write first = .error .numberTooLong := by
        simp [Fault.write, Text.Phrase.write?, hfirst]
      exact ⟨out, by simp only [printLines, hwrite]⟩
    | true =>
      have hwrite : Fault.write first = .ok first.text := by
        simp [Fault.write, Text.Phrase.write?, hfirst]
      have hrest : line ∈ rest := by
        rcases List.mem_cons.mp hline with rfl | hrest
        · rw [hfirst] at h
          cases h
        · exact hrest
      simp only [printLines, hwrite]
      exact ih hrest _

/-- A line of a dump can be written exactly if its ID can. -/
theorem isWritable_dumpLine (x : Lexicon) (entry : Int × String) :
    (dumpLine x entry).isWritable = Text.isWritable entry.1 := by
  simp [dumpLine]

/-- The whole text of a dump. -/
def dumpText (x : Lexicon) : String := String.join ((dumpLines x).map fun l => onLine l.text)

/-- The IDs of a dump are those that are shown by names. -/
theorem mem_displayed_iff {x : Lexicon} {id : Int} :
    id ∈ x.displayed.map (·.1) ↔ x.hasDisplay id = true := by
  rw [Lexicon.hasDisplay_iff]
  exact ((List.mergeSort_perm _ _).map _).mem_iff

/-- A dump is printed as a whole if all its IDs can be written. -/
theorem printLines_dumpLines {x : Lexicon}
    (h : ∀ id, x.hasDisplay id = true → id.natAbs < leastTooLong) :
    printLines "" (dumpLines x) = ⟨dumpText x, .ok ()⟩ := by
  rw [printLines_of_writable, String.empty_append, dumpText]
  intro l hl
  obtain ⟨entry, hentry, rfl⟩ := List.mem_map.mp hl
  rw [isWritable_dumpLine, Text.isWritable_iff]
  exact h _ (mem_displayed_iff.mp (List.mem_map_of_mem hentry))

/-- A dump ends at the first ID that cannot be written. -/
theorem printLines_dumpLines_tooLong {x : Lexicon} {id : Int} (hid : x.hasDisplay id = true)
    (hlong : leastTooLong ≤ id.natAbs) :
    ∃ out, printLines "" (dumpLines x) = ⟨out, .error (.inr (.fault .numberTooLong))⟩ := by
  obtain ⟨entry, hentry, rfl⟩ := List.mem_map.mp (mem_displayed_iff.mpr hid)
  refine printLines_of_unwritable (List.mem_map_of_mem (f := dumpLine x) hentry) ?_ ""
  rw [isWritable_dumpLine, Text.isWritable_eq_false_iff]
  exact hlong

/-! ### What commands ask for -/

namespace Command

/-- The architecture that a command names. -/
def architecture? : Command → Option String
  | registerId architecture _ | opcodeId architecture _ | .dump architecture _ => some architecture
  | showRegister _ | showOpcode _ => none

/-- What a command names and the directory does not know. -/
inductive Misses (dir : Directory ε) : Command → Miss → Prop
  | architecture {c : Command} {name : String} (hc : c.architecture? = some name)
      (h : Text.key true name ∉ dir.names) : Misses dir c ⟨Miss.architecture, name⟩
  | register {architecture name : String} {a : Architecture}
      (ha : dir.architecture architecture = .ok a) (h : a.registers.contains name = false) :
      Misses dir (.registerId architecture (some name)) ⟨Miss.register, name⟩
  | mnemonic {architecture name : String} {a : Architecture}
      (ha : dir.architecture architecture = .ok a) (h : a.opcodes.contains name = false) :
      Misses dir (.opcodeId architecture (some name)) ⟨Miss.instruction, name⟩

/-- A name without a text is to be looked up in an architecture that the directory knows. -/
inductive Nameless (dir : Directory ε) : Command → Prop
  | register {architecture : String} (h : Text.key true architecture ∈ dir.names) :
      Nameless dir (.registerId architecture none)
  | mnemonic {architecture : String} (h : Text.key true architecture ∈ dir.names) :
      Nameless dir (.opcodeId architecture none)

/-- An integer that has to be written in decimal when the command is carried out: an ID that was
looked up, one that nobody owns, or one of the IDs of a dump. -/
inductive Writes (dir : Directory ε) : Command → Int → Prop
  | registerId {architecture name : String} {id : Int}
      (h : dir.registerId architecture name = .ok id) :
      Writes dir (.registerId architecture (some name)) id
  | opcodeId {architecture name : String} {id : Int}
      (h : dir.opcodeId architecture name = .ok id) :
      Writes dir (.opcodeId architecture (some name)) id
  | showRegister {id : Int} (h : dir.registerOwner? id = none) : Writes dir (.showRegister id) id
  | showOpcode {id : Int} (h : dir.opcodeOwner? id = none) : Writes dir (.showOpcode id) id
  | dumpRegisters {architecture : String} {a : Architecture} {id : Int}
      (h : dir.architecture architecture = .ok a) (hid : id ∈ a.registerRange) :
      Writes dir (.dump architecture false) id
  | dumpOpcodes {architecture : String} {a : Architecture} {id : Int}
      (h : dir.architecture architecture = .ok a)
      (hid : id ∈ a.genericRange ∨ id ∈ a.opcodeRange) :
      Writes dir (.dump architecture true) id

/-- What a command prints if nothing is in the way. -/
inductive Prints (dir : Directory ε) (state : ε) : Command → String → Prop
  | registerId {architecture name : String} {id : Int}
      (h : dir.registerId architecture name = .ok id) :
      Prints dir state (.registerId architecture (some name)) (toString id ++ "\n")
  | opcodeId {architecture name : String} {id : Int}
      (h : dir.opcodeId architecture name = .ok id) :
      Prints dir state (.opcodeId architecture (some name)) (toString id ++ "\n")
  | showRegister (id : Int) :
      Prints dir state (.showRegister id) ((dir.showRegister state id).text ++ "\n")
  | showOpcode (id : Int) :
      Prints dir state (.showOpcode id) ((dir.showOpcode state id).text ++ "\n")
  | dumpRegisters {architecture : String} {a : Architecture}
      (h : dir.architecture architecture = .ok a) :
      Prints dir state (.dump architecture false) (dumpText a.registers)
  | dumpOpcodes {architecture : String} {a : Architecture}
      (h : dir.architecture architecture = .ok a) :
      Prints dir state (.dump architecture true) (dumpText a.opcodes)

variable {dir : Directory ε} {c : Command} {state : ε}

/-! ### What commands print -/

section Print

variable {name : String} {a : Architecture}

/-- A name leads to an architecture exactly if its key is the name of one. -/
theorem exists_architecture_iff :
    (∃ a, dir.architecture name = .ok a) ↔ Text.key true name ∈ dir.names := by
  cases h : dir.architecture name with
  | ok a =>
    refine iff_of_true ⟨a, rfl⟩ ?_
    by_contra hmem
    rw [Directory.architecture_eq_error_iff.mpr ⟨hmem, rfl⟩] at h
    cases h
  | error m =>
    refine iff_of_false ?_ (Directory.architecture_eq_error_iff.mp h).1
    rintro ⟨a, ⟨⟩⟩

theorem printFor_of_notMem (h : Text.key true name ∉ dir.names) (print : Architecture → Printout) :
    printFor dir name print = ⟨"", .error (.inl ⟨Miss.architecture, name⟩)⟩ := by
  rw [printFor, Directory.architecture_eq_error_iff.mpr ⟨h, rfl⟩]

theorem printFor_of_ok (h : dir.architecture name = .ok a) (print : Architecture → Printout) :
    printFor dir name print = print a := by
  rw [printFor, h]

theorem registerId_eq_ok_iff {architecture : String} {id : Int} :
    dir.registerId architecture name = .ok id ↔
      ∃ a, dir.architecture architecture = .ok a ∧ a.registers.idOf name = .ok id :=
  Except.bind_eq_ok_iff

theorem opcodeId_eq_ok_iff {architecture : String} {id : Int} :
    dir.opcodeId architecture name = .ok id ↔
      ∃ a, dir.architecture architecture = .ok a ∧ a.opcodes.idOf name = .ok id :=
  Except.bind_eq_ok_iff

theorem printId_of_unknown {x : Lexicon} (h : x.contains name = false) :
    printId x (some name) = ⟨"", .error (.inl ⟨x.kind, name⟩)⟩ := by
  rw [Lexicon.contains, Option.isSome_eq_false_iff, Option.isNone_iff_eq_none] at h
  have hid : x.idOf name = .error ⟨x.kind, name⟩ := by rw [Lexicon.idOf, h]
  simp only [printId, hid]

theorem printId_of_idOf {x : Lexicon} {id : Int} (h : x.idOf name = .ok id) :
    printId x (some name) = printLines "" [(id : Text.Phrase)] := by
  simp only [printId, h]

/-- The ID of a register that is found is what is to be printed. -/
theorem print_registerId {architecture : String} {id : Int}
    (h : dir.registerId architecture name = .ok id) :
    (registerId architecture (some name)).print dir state = printLines "" [(id : Text.Phrase)] := by
  obtain ⟨a, ha, hid⟩ := registerId_eq_ok_iff.mp h
  rw [print, printFor_of_ok ha, printId_of_idOf hid]

/-- So is the opcode of a mnemonic. -/
theorem print_opcodeId {architecture : String} {id : Int}
    (h : dir.opcodeId architecture name = .ok id) :
    (opcodeId architecture (some name)).print dir state = printLines "" [(id : Text.Phrase)] := by
  obtain ⟨a, ha, hid⟩ := opcodeId_eq_ok_iff.mp h
  rw [print, printFor_of_ok ha, printId_of_idOf hid]

/-- The lines of a dump are those of the lexicon that is asked for. -/
theorem print_dump {architecture : String} (ha : dir.architecture architecture = .ok a)
    (opcodes : Bool) : (Command.dump architecture opcodes).print dir state =
      printLines "" (dumpLines (if opcodes then a.opcodes else a.registers)) := by
  rw [print, printFor_of_ok ha]

end Print

/-- One line that can be written is printed. -/
theorem printLines_singleton {line : Text.Phrase} (h : line.isWritable = true) :
    printLines "" [line] = ⟨line.text ++ "\n", .ok ()⟩ := by
  rw [printLines_of_writable (List.forall_mem_singleton.mpr h)]
  simp [onLine]

/-- **A name that is not known is told before anything is printed.** -/
theorem print_of_misses (hdir : dir.Serves) {m : Miss} (h : c.Misses dir m) :
    c.print dir state = ⟨"", .error (.inl m)⟩ := by
  cases h with
  | architecture hc hname =>
    cases c <;> cases hc <;> exact printFor_of_notMem hname _
  | register ha hname =>
    have hmem := hdir.mem_of_architecture ha
    rw [print, printFor_of_ok ha, printId_of_unknown hname, hdir.register_kind _ hmem]
  | mnemonic ha hname =>
    have hmem := hdir.mem_of_architecture ha
    rw [print, printFor_of_ok ha, printId_of_unknown hname, hdir.opcode_kind _ hmem]

/-- A name without a text is noticed once the architecture was found. -/
theorem print_of_nameless (h : c.Nameless dir) :
    c.print dir state = ⟨"", .error (.inr .nameless)⟩ := by
  cases h with
  | register h =>
    obtain ⟨a, ha⟩ := exists_architecture_iff.mpr h
    rw [print, printFor_of_ok ha, printId]
  | mnemonic h =>
    obtain ⟨a, ha⟩ := exists_architecture_iff.mpr h
    rw [print, printFor_of_ok ha, printId]

/-- An integer that has too many digits ends the printing. -/
theorem print_of_writes_tooLong (hdir : dir.Serves) {n : Int} (h : c.Writes dir n)
    (hlong : leastTooLong ≤ n.natAbs) :
    ∃ out, c.print dir state = ⟨out, .error (.inr (.fault .numberTooLong))⟩ := by
  have hn : Text.isWritable n = false := Text.isWritable_eq_false_iff.mpr hlong
  cases h with
  | registerId h =>
    rw [print_registerId h]
    exact printLines_of_unwritable (List.mem_singleton_self _) hn ""
  | opcodeId h =>
    rw [print_opcodeId h]
    exact printLines_of_unwritable (List.mem_singleton_self _) hn ""
  | showRegister h =>
    exact printLines_of_unwritable (List.mem_singleton_self _)
      ((hdir.showRegister_unwritable_iff state n).mpr ⟨h, hlong⟩) ""
  | showOpcode h =>
    exact printLines_of_unwritable (List.mem_singleton_self _)
      ((hdir.showOpcode_unwritable_iff state n).mpr ⟨h, hlong⟩) ""
  | dumpRegisters ha hid =>
    have hmem := hdir.mem_of_architecture ha
    rw [print_dump ha]
    exact printLines_dumpLines_tooLong ((hdir.register_shown_iff _ hmem n).mpr hid) hlong
  | dumpOpcodes ha hid =>
    have hmem := hdir.mem_of_architecture ha
    rw [print_dump ha]
    exact printLines_dumpLines_tooLong ((hdir.opcode_shown_iff _ hmem n).mpr hid) hlong

/-- **What a command asks for is printed** if no integer in it has too many digits. -/
theorem print_of_prints (hdir : dir.Serves) {out : String} (h : c.Prints dir state out)
    (hshort : ∀ n, c.Writes dir n → n.natAbs < leastTooLong) :
    c.print dir state = ⟨out, .ok ()⟩ := by
  cases h with
  | registerId h =>
    rw [print_registerId h]
    exact printLines_singleton (Text.isWritable_iff.mpr (hshort _ (.registerId h)))
  | opcodeId h =>
    rw [print_opcodeId h]
    exact printLines_singleton (Text.isWritable_iff.mpr (hshort _ (.opcodeId h)))
  | showRegister id =>
    refine printLines_singleton ?_
    by_contra hlong
    rw [Bool.not_eq_true, hdir.showRegister_unwritable_iff] at hlong
    exact absurd (hshort id (.showRegister hlong.1)) (Nat.not_lt.mpr hlong.2)
  | showOpcode id =>
    refine printLines_singleton ?_
    by_contra hlong
    rw [Bool.not_eq_true, hdir.showOpcode_unwritable_iff] at hlong
    exact absurd (hshort id (.showOpcode hlong.1)) (Nat.not_lt.mpr hlong.2)
  | dumpRegisters ha =>
    have hmem := hdir.mem_of_architecture ha
    rw [print_dump ha]
    refine printLines_dumpLines fun id hid => ?_
    exact hshort id (.dumpRegisters ha ((hdir.register_shown_iff _ hmem id).mp hid))
  | dumpOpcodes ha =>
    have hmem := hdir.mem_of_architecture ha
    rw [print_dump ha]
    refine printLines_dumpLines fun id hid => ?_
    exact hshort id (.dumpOpcodes ha ((hdir.opcode_shown_iff _ hmem id).mp hid))

/-- A name of the command is not known, or it has no text, or there is something to print. -/
theorem cases (dir : Directory ε) (state : ε) (c : Command) :
    (∃ m, c.Misses dir m) ∨ c.Nameless dir ∨ ∃ out, c.Prints dir state out := by
  by_cases hmiss : ∃ m, c.Misses dir m
  · exact .inl hmiss
  refine .inr ?_
  have hknown : ∀ name, c.architecture? = some name → Text.key true name ∈ dir.names := by
    intro name hc
    by_contra hname
    exact hmiss ⟨_, .architecture hc hname⟩
  cases c with
  | registerId architecture name =>
    have harchitecture := hknown _ rfl
    cases name with
    | none => exact .inl (.register harchitecture)
    | some name =>
      obtain ⟨a, ha⟩ := exists_architecture_iff.mpr harchitecture
      cases hname : a.registers.contains name with
      | false => exact absurd ⟨_, .register ha hname⟩ hmiss
      | true =>
        obtain ⟨id, hid⟩ := Lexicon.contains_iff.mp hname
        exact .inr ⟨_, .registerId (registerId_eq_ok_iff.mpr ⟨a, ha, hid⟩)⟩
  | opcodeId architecture name =>
    have harchitecture := hknown _ rfl
    cases name with
    | none => exact .inl (.mnemonic harchitecture)
    | some name =>
      obtain ⟨a, ha⟩ := exists_architecture_iff.mpr harchitecture
      cases hname : a.opcodes.contains name with
      | false => exact absurd ⟨_, .mnemonic ha hname⟩ hmiss
      | true =>
        obtain ⟨id, hid⟩ := Lexicon.contains_iff.mp hname
        exact .inr ⟨_, .opcodeId (opcodeId_eq_ok_iff.mpr ⟨a, ha, hid⟩)⟩
  | showRegister id => exact .inr ⟨_, .showRegister id⟩
  | showOpcode id => exact .inr ⟨_, .showOpcode id⟩
  | dump architecture opcodes =>
    obtain ⟨a, ha⟩ := exists_architecture_iff.mpr (hknown _ rfl)
    cases opcodes with
    | false => exact .inr ⟨_, .dumpRegisters ha⟩
    | true => exact .inr ⟨_, .dumpOpcodes ha⟩

/-- **What a command prints, in each of its cases.** -/
theorem print_cases (hdir : dir.Serves) (state : ε) (c : Command) :
    (∃ m, c.Misses dir m ∧ c.print dir state = ⟨"", .error (.inl m)⟩) ∨
    (c.Nameless dir ∧ c.print dir state = ⟨"", .error (.inr .nameless)⟩) ∨
    (∃ n out, c.Writes dir n ∧ leastTooLong ≤ n.natAbs ∧
      c.print dir state = ⟨out, .error (.inr (.fault .numberTooLong))⟩) ∨
    ∃ out, c.Prints dir state out ∧ (∀ n, c.Writes dir n → n.natAbs < leastTooLong) ∧
      c.print dir state = ⟨out, .ok ()⟩ := by
  rcases c.cases dir state with ⟨m, hm⟩ | hnameless | ⟨out, hout⟩
  · exact .inl ⟨m, hm, print_of_misses hdir hm⟩
  · exact .inr (.inl ⟨hnameless, print_of_nameless hnameless⟩)
  refine .inr (.inr ?_)
  by_cases hshort : ∀ n, c.Writes dir n → n.natAbs < leastTooLong
  · exact .inr ⟨out, hout, hshort, print_of_prints hdir hout hshort⟩
  · push Not at hshort
    obtain ⟨n, hn, hlong⟩ := hshort
    have hprint : ∃ out, c.print dir state = ⟨out, .error (.inr (.fault .numberTooLong))⟩ :=
      print_of_writes_tooLong hdir hn hlong
    obtain ⟨out, hprint⟩ := hprint
    exact .inl ⟨n, out, hn, hlong, hprint⟩

section Iff

variable (hdir : dir.Serves)
include hdir

/-- A look-up fails exactly for a name that is not known, and nothing has been printed then. -/
theorem print_eq_miss_iff {out : String} {m : Miss} :
    c.print dir state = ⟨out, .error (.inl m)⟩ ↔ out = "" ∧ c.Misses dir m := by
  constructor
  · intro h
    rcases print_cases hdir state c with ⟨m', hm, hp⟩ | ⟨-, hp⟩ | ⟨_, _, -, -, hp⟩ | ⟨_, -, -, hp⟩
    all_goals
      rw [hp] at h
      cases h
    exact ⟨rfl, hm⟩
  · rintro ⟨rfl, hm⟩
    exact print_of_misses hdir hm

theorem print_eq_nameless_iff :
    (∃ out, c.print dir state = ⟨out, .error (.inr .nameless)⟩) ↔ c.Nameless dir := by
  constructor
  · rintro ⟨out, h⟩
    rcases print_cases hdir state c with
      ⟨_, -, hp⟩ | ⟨hnameless, hp⟩ | ⟨_, _, -, -, hp⟩ | ⟨_, -, -, hp⟩
    all_goals
      rw [hp] at h
      cases h
    exact hnameless
  · intro h
    exact ⟨_, print_of_nameless h⟩

/-- Printing fails exactly for an integer that has too many digits. -/
theorem print_eq_fault_iff {e : Fault} :
    (∃ out, c.print dir state = ⟨out, .error (.inr (.fault e))⟩) ↔
      e = .numberTooLong ∧ ∃ n, c.Writes dir n ∧ leastTooLong ≤ n.natAbs := by
  constructor
  · rintro ⟨out, h⟩
    rcases print_cases hdir state c with
      ⟨_, -, hp⟩ | ⟨-, hp⟩ | ⟨n, _, hn, hlong, hp⟩ | ⟨_, -, -, hp⟩
    all_goals
      rw [hp] at h
      cases h
    exact ⟨rfl, n, hn, hlong⟩
  · rintro ⟨rfl, n, hn, hlong⟩
    exact print_of_writes_tooLong hdir hn hlong

theorem print_eq_ok_iff {out : String} :
    c.print dir state = ⟨out, .ok ()⟩ ↔
      c.Prints dir state out ∧ ∀ n, c.Writes dir n → n.natAbs < leastTooLong := by
  constructor
  · intro h
    rcases print_cases hdir state c with
      ⟨_, -, hp⟩ | ⟨-, hp⟩ | ⟨_, _, -, -, hp⟩ | ⟨_, hout, hshort, hp⟩
    all_goals
      rw [hp] at h
      cases h
    exact ⟨hout, hshort⟩
  · rintro ⟨hout, hshort⟩
    exact print_of_prints hdir hout hshort

end Iff

/-- No name is missed by a command without names. -/
theorem Misses.architecture?_ne_none {m : Miss} (h : c.Misses dir m) : c.architecture? ≠ none := by
  cases h with
  | architecture hc =>
    rw [hc]
    exact Option.some_ne_none _
  | register => exact Option.some_ne_none _
  | mnemonic => exact Option.some_ne_none _

end Command

/-! ### The ends of a command line -/

/-- How a run without a log ends after printing. -/
def Printout.result : Printout → Result
  | ⟨out, .ok ()⟩ => .exit ⟨0, out, ""⟩
  | ⟨out, .error (.inl m)⟩ => .exit ⟨1, out, "ERROR: " ++ m.message ++ "\n"⟩
  | ⟨_, .error (.inr e)⟩ => .escape e

namespace Printout

variable {p : Printout} {out err : String}

theorem result_eq_exit_zero_iff :
    p.result = .exit ⟨0, out, err⟩ ↔ err = "" ∧ p = ⟨out, .ok ()⟩ := by
  rcases p with ⟨_, (m | e) | ⟨⟩⟩ <;> simp [result, and_comm, eq_comm]

theorem result_eq_exit_one_iff : p.result = .exit ⟨1, out, err⟩ ↔
    ∃ m, p = ⟨out, .error (.inl m)⟩ ∧ err = "ERROR: " ++ m.message ++ "\n" := by
  rcases p with ⟨_, (m | e) | ⟨⟩⟩ <;> simp [result, eq_comm]

theorem result_eq_escape_iff {e : Escape} :
    p.result = .escape e ↔ ∃ out, p = ⟨out, .error (.inr e)⟩ := by
  rcases p with ⟨_, (m | e) | ⟨⟩⟩ <;> simp [result, eq_comm]

theorem result_cases (p : Printout) :
    (∃ e, p.result = .escape e) ∨ ∃ x : Exit, p.result = .exit x ∧ x.code ≤ 1 := by
  rcases p with ⟨_, (m | e) | ⟨⟩⟩ <;> simp [result]

end Printout

namespace Request

variable {c : Command} {start : Traced (Directory Unit)}

/-- A flaw in the start is told, whatever the command is. -/
theorem run_of_flaw {f : Flaw} (h : start.outcome = .error (.flaw f)) :
    (Request.mk none c).run start = .exit ⟨2, "", f.notice.text ++ "\n"⟩ := by
  simp [run, perform, Transcript.result, h, logText, onLine]

/-- Any other fault in the start ends the program as it is. -/
theorem run_of_error {e : Fault} (h : start.outcome = .error e) (he : ∀ f, e ≠ .flaw f) :
    (Request.mk none c).run start = .escape (.fault e) := by
  cases e with
  | flaw f => exact absurd rfl (he f)
  | miss | badRange | tooLong | numberTooLong => simp [run, perform, Transcript.result, h]

/-- What was printed is the output, whatever log is shown. -/
theorem run_of_print {level : Option String} {dir : Directory Unit} {out : String}
    (h : start.outcome = .ok dir) (hp : c.print dir () = ⟨out, .ok ()⟩) :
    (Request.mk level c).run start = .exit ⟨0, out, shownLog level start.log⟩ := by
  simp [run, perform, Transcript.result, h, hp, shownLog]

theorem run_of_escape {level : Option String} {dir : Directory Unit} {out : String} {e : Escape}
    (h : start.outcome = .ok dir) (hp : c.print dir () = ⟨out, .error (.inr e)⟩) :
    (Request.mk level c).run start = .escape e := by
  simp [run, perform, Transcript.result, h, hp]

/-- After a start the command decides. -/
theorem run_of_ok {dir : Directory Unit} (h : start.outcome = .ok dir) :
    (Request.mk none c).run start = (c.print dir ()).result := by
  rcases hp : c.print dir () with ⟨out, (m | e) | ⟨⟩⟩ <;>
    simp [run, perform, Transcript.result, h, hp, logText, onLine, Printout.result]

end Request

/-- The end of a command line, told by its start and its command. -/
structure Command.Outcome (c : Command) (start : Except Fault (Directory Unit)) (r : Result) :
    Prop where
  /-- There is an exit code up to two, or else something escapes that has none. -/
  total : (∃ e, r = .escape e) ∨ ∃ x : Exit, r = .exit x ∧ x.code ≤ 2
  /-- A start that fails with something else than a flaw ends the program as it is; so does an
  integer that has too many digits to be printed. -/
  fault_iff : ∀ e, r = .escape (.fault e) ↔
    start = .error e ∧ (e = .numberTooLong ∨ ∃ b, e = .badRange b) ∨
      e = .numberTooLong ∧ ∃ dir n, start = .ok dir ∧ c.Writes dir n ∧ leastTooLong ≤ n.natAbs
  nameless_iff : r = .escape .nameless ↔ ∃ dir, start = .ok dir ∧ c.Nameless dir
  /-- A flaw is told whatever the command is, and nothing else is. -/
  exit_two_iff : ∀ out err, r = .exit ⟨2, out, err⟩ ↔
    out = "" ∧ ∃ f, start = .error (.flaw f) ∧ err = f.notice.text ++ "\n"
  /-- A name that is not known is told, and nothing is printed. -/
  exit_one_iff : ∀ out err, r = .exit ⟨1, out, err⟩ ↔
    out = "" ∧ ∃ dir m, start = .ok dir ∧ c.Misses dir m ∧ err = "ERROR: " ++ m.message ++ "\n"
  exit_zero_iff : ∀ out err, r = .exit ⟨0, out, err⟩ ↔
    err = "" ∧ ∃ dir, start = .ok dir ∧ c.Prints dir () out ∧
      ∀ n, c.Writes dir n → n.natAbs < leastTooLong
  /-- Spelling an ID out has nothing to look up. -/
  spelled : c.architecture? = none → ∀ x, r = .exit x → x.code ≠ 1

namespace Command.Outcome

variable {c : Command}

/-- The end after a flaw. -/
theorem of_flaw (f : Flaw) :
    c.Outcome (.error (.flaw f)) (.exit ⟨2, "", f.notice.text ++ "\n"⟩) where
  total := .inr ⟨_, rfl, Nat.le_refl 2⟩
  fault_iff := by
    intro e
    refine iff_of_false nofun ?_
    rintro (⟨he, h | ⟨b, h⟩⟩ | ⟨-, dir, n, ⟨⟩, -⟩)
    · rw [h] at he
      cases he
    · rw [h] at he
      cases he
  nameless_iff := by simp
  exit_two_iff := by
    intro out err
    simp [eq_comm]
  exit_one_iff := by simp
  exit_zero_iff := by simp
  spelled := by
    rintro - x ⟨⟩
    exact Nat.succ_ne_self 1

/-- The end after another fault of a start. -/
theorem of_error {e : Fault} (he : e = .numberTooLong ∨ ∃ b, e = .badRange b) :
    c.Outcome (.error e) (.escape (.fault e)) where
  total := .inl ⟨_, rfl⟩
  fault_iff := by
    intro e'
    constructor
    · rintro ⟨⟩
      exact .inl ⟨rfl, he⟩
    · rintro (⟨⟨⟩, -⟩ | ⟨-, dir, n, ⟨⟩, -⟩)
      rfl
  nameless_iff := by simp
  exit_two_iff := by
    rcases he with rfl | ⟨b, rfl⟩ <;> simp
  exit_one_iff := by simp
  exit_zero_iff := by simp
  spelled := nofun

/-- The end after a start that succeeds. -/
theorem of_ok {dir : Directory Unit} (hdir : dir.Serves) :
    c.Outcome (.ok dir) (c.print dir ()).result where
  total := (Printout.result_cases _).imp_right fun ⟨x, hx, hcode⟩ =>
    ⟨x, hx, Nat.le_succ_of_le hcode⟩
  fault_iff := by
    intro e
    rw [Printout.result_eq_escape_iff, print_eq_fault_iff hdir]
    simp
  nameless_iff := by
    rw [Printout.result_eq_escape_iff, print_eq_nameless_iff hdir]
    simp
  exit_two_iff := by
    intro out err
    refine iff_of_false ?_ ?_
    · intro h
      rcases Printout.result_cases (c.print dir ()) with ⟨e, he⟩ | ⟨x, hx, hcode⟩
      · rw [he] at h
        cases h
      · rw [hx] at h
        cases h
        exact absurd hcode (Nat.not_succ_le_self 1)
    · rintro ⟨-, f, ⟨⟩, -⟩
  exit_one_iff := by
    intro out err
    rw [Printout.result_eq_exit_one_iff]
    simp only [print_eq_miss_iff hdir]
    simp [and_assoc]
  exit_zero_iff := by
    intro out err
    rw [Printout.result_eq_exit_zero_iff, print_eq_ok_iff hdir]
    simp
  spelled := by
    rintro hc ⟨code, out, err⟩ hx rfl
    obtain ⟨m, hm, -⟩ := Printout.result_eq_exit_one_iff.mp hx
    exact ((print_eq_miss_iff hdir).mp hm).2.architecture?_ne_none hc

end Command.Outcome

variable {edition : Edition} {generic : List String} {declarations : List Declaration}
  {args : List String}

theorem runBy_of_accepted {r : Request} (h : Request.read edition args = .accepted r) :
    runBy edition generic declarations args =
      r.run (Startup.ofDeclarations generic declarations) := by
  rw [runBy, perform, h]
  rfl

/-- **Every accepted command line has the one end that its start and its command tell.** -/
theorem run_outcome {c : Command}
    (hcount : ∀ d ∈ declarations, registerTotal d.banks ≤ IdRange.lengthLimit)
    (hread : Request.read edition args = .accepted ⟨none, c⟩) :
    c.Outcome (Startup.ofDeclarations generic declarations).outcome
      (runBy edition generic declarations args) := by
  rw [runBy_of_accepted hread]
  cases hstart :
    (Startup.ofDeclarations generic declarations : Traced (Directory Unit)).outcome with
  | ok dir =>
    rw [Request.run_of_ok hstart]
    exact .of_ok (Startup.serves_of_ok hstart)
  | error e =>
    cases Startup.fault_cases hcount hstart with
    | flaw f =>
      rw [Request.run_of_flaw hstart]
      exact .of_flaw f
    | badRange b =>
      rw [Request.run_of_error hstart nofun]
      exact .of_error (.inr ⟨b, rfl⟩)
    | numberTooLong =>
      rw [Request.run_of_error hstart nofun]
      exact .of_error (.inl rfl)

/-- A mnemonic in another spelling, looked up in an architecture that comes after generic ones. -/
theorem run_outcome_of_spelling :
    (∀ d ∈ [(⟨"x", 0, [⟨"r", 2, false⟩], [], 1, ["add"]⟩ : Declaration)],
      registerTotal d.banks ≤ IdRange.lengthLimit) ∧
    Request.read .earlier ["op", "X", " ADD"] = .accepted ⟨none, .opcodeId "X" (some " ADD")⟩ ∧
    run ["nop"] [⟨"x", 0, [⟨"r", 2, false⟩], [], 1, ["add"]⟩] ["op", "X", " ADD"] =
      .exit ⟨0, "1\n", ""⟩ ∧
    (Command.opcodeId "X" (some " ADD")).Outcome
      (Startup.ofDeclarations ["nop"] [⟨"x", 0, [⟨"r", 2, false⟩], [], 1, ["add"]⟩]).outcome
      (run ["nop"] [⟨"x", 0, [⟨"r", 2, false⟩], [], 1, ["add"]⟩] ["op", "X", " ADD"]) := by
  have hcount : ∀ d ∈ [(⟨"x", 0, [⟨"r", 2, false⟩], [], 1, ["add"]⟩ : Declaration)],
      registerTotal d.banks ≤ IdRange.lengthLimit := by decide
  have hread : Request.read .earlier ["op", "X", " ADD"] =
      .accepted ⟨none, .opcodeId "X" (some " ADD")⟩ := by decide +kernel
  exact ⟨hcount, hread, by decide +kernel, run_outcome hcount hread⟩

/-- After a start that succeeds there are two ends without an exit code: a register whose ID has too
many digits cannot be told, and neither can a register that two dashes stand for. -/
theorem escapes_after_start :
    ∃ d : Declaration,
      (d.registerBase = ((leastTooLong - 1 : Nat) : Int) ∧ d.banks = [⟨"r", 2, false⟩]) ∧
      registerTotal d.banks ≤ IdRange.lengthLimit ∧
      (Startup.ofDeclarations [] [d] : Traced (Directory Unit)).outcome.isOk = true ∧
      Request.read .earlier ["reg", "x", "r1"] = .accepted ⟨none, .registerId "x" (some "r1")⟩ ∧
      run [] [d] ["reg", "x", "r1"] = .escape (.fault .numberTooLong) ∧
      Request.read .earlier ["reg", "x", "--", "--"] = .accepted ⟨none, .registerId "x" none⟩ ∧
      run [] [d] ["reg", "x", "--", "--"] = .escape .nameless := by
  refine ⟨⟨"x", ((leastTooLong - 1 : Nat) : Int), [⟨"r", 2, false⟩], [], 0, []⟩, ⟨rfl, rfl⟩, ?_, ?_,
    ?_, ?_, ?_, ?_⟩
  · decide
  · decide +kernel
  · decide +kernel
  · decide +kernel
  · decide +kernel
  · decide +kernel

end CommandLine

end IsaNames
