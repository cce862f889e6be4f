import IsaNames.Proofs.Opcodes
import IsaNames.Proofs.Registers
import IsaNames.Provider

/-!
# Which declarations can be built

A declaration can be built exactly if it is well-formed, which can be told from the declaration and
the generic mnemonics alone.  What is reported otherwise is a flaw of the declaration or a negative
number; that an ID could not be shown by its name is never reported.

## Main definitions

* `Architecture.Complete` — what holds of every architecture that was built.
* `Declaration.WellFormed` — what is asked of a declaration.
* `Declaration.Mentions` — the integers that the flaws of a declaration speak of.
* `Declaration.Refusal` — what building a declaration can fail with.

## Main results

* `Declaration.build_eq_ok_iff` — what a declaration is built into.
* `Provider.build_succeeds_iff_wellFormed` — **exactly the well-formed declarations are built, and
  the others are refused for what is wrong with them.**
-/

namespace IsaNames

/-- What holds of every architecture that was built: names and IDs of its ranges go together, in both
lexicons, and the generic mnemonics are shown as any lexicon of them shows them. -/
structure Architecture.Complete (a : Architecture) (generic : List String) : Prop where
  registers_sound : a.registers.Sound
  register_mem : ∀ name id, a.registers.idOf name = .ok id → id ∈ a.registerRange
  register_shown : ∀ id : Int, id ∈ a.registerRange → a.registers.hasDisplay id = true
  opcodes_sound : a.opcodes.Sound
  opcode_mem : ∀ name id, a.opcodes.idOf name = .ok id →
    id ∈ IsaNames.genericRange generic ∨ id ∈ a.opcodeRange
  opcode_shown : ∀ id : Int, id ∈ IsaNames.genericRange generic ∨ id ∈ a.opcodeRange →
    a.opcodes.hasDisplay id = true
  generic_display : ∀ owner, ∀ id : Int, id ∈ IsaNames.genericRange generic →
    a.opcodes.display id = (genericDraft owner generic).content.display id

namespace Declaration

/-- What is asked of a declaration that comes with the given generic mnemonics. -/
structure WellFormed (d : Declaration) (generic : List String) : Prop
    extends d.RegistersWellFormed, d.OpcodesWellFormed generic

/-- The integers that the flaws of a declaration can speak of: register IDs, opcodes, and positions
and ends of their ranges. -/
def Mentions (d : Declaration) (generic : List String) (n : Int) : Prop :=
  (d.registerBase ≤ n ∧ n ≤ d.registerBase + registerCount d.banks) ∨
  (d.opcodeBase ≤ n ∧ n ≤ d.opcodeBase + d.mnemonics.length) ∨
  (0 ≤ n ∧ (n ≤ registerCount d.banks ∨ n ≤ generic.length))

/-- What building a declaration can fail with. -/
inductive Refusal (d : Declaration) (generic : List String) : Fault → Prop
  /-- A flaw of the declaration, and never one about what an ID is to be shown by. -/
  | flaw {f : Flaw} (h : f.FoundIn (d.Mentions generic)) : Refusal d generic (.flaw f)
  /-- There is such a flaw, but it speaks of an integer that cannot be written. -/
  | unwritable {n : Int} (hn : d.Mentions generic n)
      (hlong : Text.leastTooLong ≤ n.natAbs) : Refusal d generic .numberTooLong
  /-- The ID of the first register is negative. -/
  | negativeBase (h : d.registerBase < 0) :
      Refusal d generic (.badRange (.negativeBase d.registerBase))
  /-- A bank has a negative number of registers. -/
  | negativeSize {b : Bank} (hb : b ∈ d.banks) (h : b.count < 0) :
      Refusal d generic (.badRange (.negativeSize b.count))

variable {d : Declaration} {generic : List String}

/-- What a flaw ends the building with is a reason to refuse the declaration. -/
theorem Refusal.of_fault {f : Flaw} (h : f.FoundIn (d.Mentions generic)) :
    d.Refusal generic f.fault := by
  rcases h.fault_cases with hf | ⟨hf, n, hn, hlong⟩
  · rw [hf]
    exact .flaw h
  · rw [hf]
    exact .unwritable hn (Text.isWritable_eq_false_iff.mp hlong)

theorem opcodeRange_eq_ok_iff (hbase : 0 ≤ d.opcodeBase) {range : IdRange} :
    d.opcodeRange = .ok range ↔ range = ⟨d.opcodeBase.toNat, d.mnemonics.length⟩ := by
  rw [opcodeRange, IdRange.make_eq_ok_iff]
  constructor
  · rintro ⟨hbase, hsize⟩
    rw [hbase, Int.ofNat_inj.mp hsize, Int.toNat_natCast]
  · rintro rfl
    exact ⟨(Int.toNat_of_nonneg hbase).symm, rfl⟩

/-- What a declaration is built into: its two lexicons, and the ranges of the IDs that they have
names for. -/
theorem build_eq_ok_iff {a : Architecture} :
    (d.build generic).outcome = .ok a ↔
      ∃ x ranges, d.buildRegisters.outcome = .ok (x, ranges) ∧ d.OpcodesWellFormed generic ∧
        a = { name := d.name
              registerRange := ⟨d.registerBase.toNat, registerCount d.banks⟩
              opcodeRange := ⟨d.opcodeBase.toNat, d.mnemonics.length⟩
              genericRange := genericRange generic
              banks := ranges
              registers := x
              opcodes := (d.opcodeDraft generic).content } := by
  unfold build
  simp only [Traced.outcome_bind, Traced.outcome_ranged, Traced.outcome_flawed,
    Traced.outcome_pure, Except.bind_eq_ok_iff, Except.mapError_eq_ok_iff, buildOpcodes_eq_ok_iff]
  constructor
  · rintro ⟨⟨x, ranges⟩, hregs, _, ⟨hops, rfl⟩, range, hrange, range', hrange', hlast⟩
    obtain ⟨hbase, hcounts, -⟩ := buildRegisters_eq_ok_iff.mp hregs
    obtain ⟨-, rfl⟩ := (registerRange_eq_ok_iff hcounts).mp hrange
    rw [opcodeRange_eq_ok_iff hops.base_nonneg] at hrange'
    rw [hrange', Except.ok.injEq] at hlast
    exact ⟨x, ranges, hregs, hops, hlast.symm⟩
  · rintro ⟨x, ranges, hregs, hops, rfl⟩
    obtain ⟨hbase, hcounts, -⟩ := buildRegisters_eq_ok_iff.mp hregs
    exact ⟨_, hregs, _, ⟨hops, rfl⟩, _, (registerRange_eq_ok_iff hcounts).mpr ⟨hbase, rfl⟩, _,
      (opcodeRange_eq_ok_iff hops.base_nonneg).mpr rfl, rfl⟩

/-- What is built from a declaration is complete. -/
theorem complete_of_build {a : Architecture} (h : (d.build generic).outcome = .ok a) :
    a.Complete generic := by
  obtain ⟨x, ranges, hx, hwf, rfl⟩ := build_eq_ok_iff.mp h
  obtain ⟨hbase, -⟩ := buildRegisters_eq_ok_iff.mp hx
  obtain ⟨hsound, hids, hshown⟩ := buildRegisters_spec hx
  obtain ⟨hsound', hids', hshown', hsame⟩ := hwf.spec
  have hbase' := hwf.base_nonneg
  refine ⟨hsound, ?_, ?_, hsound', ?_, ?_, ?_⟩
  -- the ranges consist of the IDs that the lexicons were made for
  · intro name id hid
    rw [IdRange.mem_toNat_iff hbase]
    exact hids _ (Lexicon.mem_entries_of_idOf? (Lexicon.idOf_eq_ok_iff.mp hid))
  · intro id hid
    rw [IdRange.mem_toNat_iff hbase] at hid
    exact hshown id hid
  · intro name id hid
    rw [IdRange.mem_iff_mem_idsFrom, IdRange.mem_toNat_iff hbase']
    exact hids' _ (Lexicon.mem_entries_of_idOf? (Lexicon.idOf_eq_ok_iff.mp hid))
  · intro id hid
    rw [IdRange.mem_iff_mem_idsFrom, IdRange.mem_toNat_iff hbase'] at hid
    exact hshown' id hid
  · intro owner id hid
    rw [IdRange.mem_iff_mem_idsFrom] at hid
    exact hsame owner id hid

/-- A declaration that is not built is refused for what is wrong with it. -/
theorem build_error {e : Fault} (h : (d.build generic).outcome = .error e) :
    d.Refusal generic e := by
  unfold build at h
  simp only [Traced.outcome_bind, Traced.outcome_ranged, Traced.outcome_flawed,
    Traced.outcome_pure] at h
  rcases Except.bind_eq_error_iff.mp h with h | ⟨⟨x, ranges⟩, hregs, h⟩
  · have herror := buildRegisters_error (P := d.Mentions generic)
      (fun n hle hlt => Or.inl ⟨hle, hlt⟩) (fun n hle hlt => Or.inr (Or.inr ⟨hle, Or.inl hlt⟩)) h
    rcases herror with ⟨f, hf, rfl⟩ | ⟨hbase, rfl⟩ | ⟨b, hb, hcount, rfl⟩
    · exact .of_fault hf
    · exact .negativeBase hbase
    · exact .negativeSize hb hcount
  obtain ⟨hbase, hcounts, -⟩ := buildRegisters_eq_ok_iff.mp hregs
  rcases Except.bind_eq_error_iff.mp h with h | ⟨x', hops, h⟩
  · obtain ⟨f, hf, rfl⟩ := Except.mapError_eq_error_iff.mp h
    exact .of_fault (buildOpcodes_error (fun n hle hlt => Or.inr (Or.inr ⟨hle, Or.inr hlt⟩))
      (fun n hle hlt => Or.inr (Or.inl ⟨hle, hlt⟩)) hf)
  -- both ranges are possible once the lexicons are there
  obtain ⟨hwf, -⟩ := buildOpcodes_eq_ok_iff.mp (Except.mapError_eq_ok_iff.mp hops)
  have hbase' := hwf.base_nonneg
  rw [(registerRange_eq_ok_iff hcounts).mpr ⟨hbase, rfl⟩,
    (opcodeRange_eq_ok_iff hbase').mpr rfl] at h
  cases h

end Declaration

namespace Provider

open Lexicon (Draft)

variable {d : Declaration} {generic : List String}

/-- A new provider builds what its declaration is built into, if the number of registers can be
reported. -/
theorem outcome_build_fresh (hcount : registerTotal d.banks ≤ IdRange.lengthLimit) :
    (build generic { declaration := d }).2.outcome = (d.build generic).outcome := by
  have hreport : ∀ {a}, (d.build generic).outcome = .ok a →
      (reportBuild { declaration := d } a).outcome = .ok a := by
    -- the report fails only if the number of registers cannot be told
    intro a ha
    obtain ⟨x, ranges, hregs, -, rfl⟩ := Declaration.build_eq_ok_iff.mp ha
    obtain ⟨-, hcounts, -⟩ := Declaration.buildRegisters_eq_ok_iff.mp hregs
    rw [registerTotal_eq hcounts] at hcount
    have hlength : registerCount d.banks ≤ IdRange.lengthLimit := Int.ofNat_le.mp hcount
    simp only [reportBuild, IdRange.length?, if_pos hlength]
    rfl
  unfold build
  rcases hbuild : d.build generic with ⟨log, _ | a⟩
  · rfl
  · exact hreport (by rw [hbuild])

/-- **Exactly the well-formed declarations are built, and the others are refused for what is wrong
with them.**  In particular nothing is ever refused when registers or opcodes are made to be shown by
their names. -/
theorem build_succeeds_iff_wellFormed (d : Declaration) (generic : List String)
    (hcount : registerTotal d.banks ≤ IdRange.lengthLimit) :
    ((∃ a, (build generic { declaration := d }).2.outcome = .ok a) ↔ d.WellFormed generic) ∧
    (∀ e, (build generic { declaration := d }).2.outcome = .error e → d.Refusal generic e) ∧
    (∀ laid draft given,
      (layBanks (Draft.empty Miss.register Lexicon.registerFallback true (some d.name))
        d.registerBase d.banks).outcome = .ok laid →
      overlayNames laid.1 d.conventionNames = .ok (draft, given) →
      ∃ shown, showRegisters draft given laid.2.2 = .ok shown) ∧
    ∀ f, d.buildOpcodes generic = .error f → f.cause.arisesInBuild = true := by
  rw [outcome_build_fresh hcount]
  refine ⟨⟨?_, ?_⟩, fun e h => Declaration.build_error h, ?_, ?_⟩
  · rintro ⟨a, h⟩
    obtain ⟨x, ranges, hregs, hops, -⟩ := Declaration.build_eq_ok_iff.mp h
    have hwf := Declaration.exists_buildRegisters_iff.mp ⟨_, hregs⟩
    exact { hwf, hops with }
  · intro h
    obtain ⟨⟨x, ranges⟩, hregs⟩ :=
      Declaration.exists_buildRegisters_iff.mpr h.toRegistersWellFormed
    exact ⟨_, Declaration.build_eq_ok_iff.mpr ⟨x, ranges, hregs, h.toOpcodesWellFormed, rfl⟩⟩
  · intro laid draft given hlaid hover
    obtain ⟨-, hcounts, hkeys, rfl⟩ := Declaration.layBanks_empty_eq_ok_iff.mp hlaid
    obtain ⟨-, -, -, -, hshow⟩ := Declaration.overlayNames_spec hcounts hkeys hover
    exact ⟨_, hshow⟩
  · intro f h
    have hfound : f.FoundIn fun _ => True :=
      Declaration.buildOpcodes_error (fun _ _ _ => trivial) (fun _ _ _ => trivial) h
    exact hfound.arises

/-- Aliases of aliases, in other spellings, and a bank that is shown by the names of the calling
convention. -/
theorem wellFormed_of_alias_chain :
    registerTotal [⟨"r", 2, false⟩, ⟨"a", 1, true⟩] ≤ IdRange.lengthLimit ∧
    Declaration.WellFormed
      { name := "x"
        registerBase := 32
        banks := [⟨"r", 2, false⟩, ⟨"a", 1, true⟩]
        conventionNames := [("zero", "A0"), ("ZERO ", "zero")]
        opcodeBase := 1
        mnemonics := ["add"] } ["nop"] := by
  refine ⟨by decide, (build_succeeds_iff_wellFormed _ ["nop"] (by decide)).1.mp ?_⟩
  exact ⟨_, rfl⟩

/-- Two banks of the same stem, with IDs around the least one that cannot be written: nothing is
negative, but what is wrong cannot be told. -/
theorem same_stem_numberTooLong :
    ∃ d : Declaration,
      (d.registerBase = ((Text.leastTooLong - 1 : Nat) : Int) ∧
        d.banks = [⟨"r", 1, false⟩, ⟨"r", 1, false⟩]) ∧
      (0 ≤ d.registerBase ∧ ∀ b ∈ d.banks, 0 ≤ b.count) ∧ registerTotal d.banks ≤ IdRange.lengthLimit ∧
      (build [] { declaration := d }).2.outcome = .error .numberTooLong := by
  refine ⟨{ name := "x"
            registerBase := ((Text.leastTooLong - 1 : Nat) : Int)
            banks := [⟨"r", 1, false⟩, ⟨"r", 1, false⟩]
            conventionNames := []
            opcodeBase := 0
            mnemonics := [] }, ⟨rfl, rfl⟩, ⟨Int.natCast_nonneg _, ?_⟩, ?_, ?_⟩
  · decide
  · decide
  · decide +kernel

end Provider

end IsaNames
