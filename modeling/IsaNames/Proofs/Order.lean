import IsaNames.Proofs.Admission
import IsaNames.Proofs.Retrieval
import Mathlib.Data.List.Pairwise
import Mathlib.Data.List.Perm.Basic

/-!
# The order of declarations

A program may register its declarations in any order.  What stands in the way of a start is that two
declarations are not compatible, and that is the same both ways round.  What a directory answers does
not tell in which order its holdings were registered: a chart is sorted by bases, which differ in
ranges that are apart and not empty, and an architecture is looked up by a name that no other one has.

## Main definitions

* `Directory.AnswersAs` — two directories give the same answers.

## Main results

* `Chart.ofList_eq_of_perm` — the chart of holdings that are apart does not depend on their order.
* `Startup.directory_of_perm` — **declarations in another order start the same, with a directory that
  gives the same answers.**
-/

namespace IsaNames

variable {ε : Type}

/-! ### Charts -/

/-- Of holdings that are apart no two that are not empty have the same base. -/
theorem Apart.eq_of_base_eq {holdings : List (Holding ε)} (ha : Apart holdings) {h k : Holding ε}
    (hh : h ∈ holdings) (hk : k ∈ holdings) (hsize : h.range.size ≠ 0) (hsize' : k.range.size ≠ 0)
    (hbase : h.range.base = k.range.base) : h = k := by
  by_contra hne
  have : Std.Symm fun a b : Holding ε => a.range.overlaps b.range = false :=
    ⟨fun _ _ => IdRange.overlaps_false_symm⟩
  have happart := List.Pairwise.forall ha hh hk hne
  rw [← Bool.not_eq_true, IdRange.overlaps_iff, IdRange.stop, IdRange.stop] at happart
  omega

/-- The chart of holdings that are apart does not depend on their order. -/
theorem Chart.ofList_eq_of_perm {holdings holdings' : List (Holding ε)} (ha : Apart holdings)
    (h : holdings.Perm holdings') : ofList holdings = ofList holdings' := by
  have hperm : (ofList holdings).toList.Perm (ofList holdings').toList :=
    (List.mergeSort_perm ..).trans ((h.filter _).trans (List.mergeSort_perm ..).symm)
  have heq : (ofList holdings).toList = (ofList holdings').toList := by
    refine hperm.eq_of_pairwise ?_ (pairwise_base_le holdings) (pairwise_base_le holdings')
    intro k k' hk hk' hle hge
    exact (apart_toList ha).eq_of_base_eq hk (hperm.mem_iff.mpr hk') (mem_items_ofList.mp hk).2
      (mem_items_ofList.mp hk').2 (Nat.le_antisymm hle hge)
  exact congrArg Chart.mk (Array.toList_inj.mp heq)

namespace Directory

variable {dir dir' : Directory ε}

/-- Two directories give the same answers to every question, except that they may list their
architectures in different orders. -/
structure AnswersAs (dir dir' : Directory ε) : Prop where
  showRegister : ∀ state id, dir.showRegister state id = dir'.showRegister state id
  showOpcode : ∀ state id, dir.showOpcode state id = dir'.showOpcode state id
  registerOwner : ∀ id, dir.registerOwner? id = dir'.registerOwner? id
  opcodeOwner : ∀ id, dir.opcodeOwner? id = dir'.opcodeOwner? id
  registerRanges : dir.registerRanges = dir'.registerRanges
  opcodeRanges : dir.opcodeRanges = dir'.opcodeRanges
  /-- The same architecture is found, or the same complaint is made. -/
  architecture : ∀ name, dir.architecture name = dir'.architecture name
  registerId : ∀ architecture name,
    dir.registerId architecture name = dir'.registerId architecture name
  opcodeId : ∀ architecture name, dir.opcodeId architecture name = dir'.opcodeId architecture name
  names : dir.names.Perm dir'.names

/-- Names lead to the same architectures if only their order differs. -/
theorem architecture_eq_of_perm (hnames : dir.names.Nodup)
    (h : dir.architectures.Perm dir'.architectures) (name : String) :
    dir.architecture name = dir'.architecture name := by
  have hperm : dir.names.Perm dir'.names := h.map _
  cases hfound : dir.architecture name with
  | ok a =>
    obtain ⟨ha, hkey⟩ := (architecture_eq_ok_iff hnames).mp hfound
    exact ((architecture_eq_ok_iff (hperm.nodup_iff.mp hnames)).mpr ⟨h.mem_iff.mp ha, hkey⟩).symm
  | error m =>
    obtain ⟨hkey, hm⟩ := architecture_eq_error_iff.mp hfound
    exact (architecture_eq_error_iff.mpr ⟨fun hmem => hkey (hperm.mem_iff.mpr hmem), hm⟩).symm

/-- Directories with the same charts give the same answers if only the order of their architectures
differs. -/
theorem answersAs (hregs : dir.registers = dir'.registers) (hops : dir.opcodes = dir'.opcodes)
    (hnames : dir.names.Nodup) (h : dir.architectures.Perm dir'.architectures) :
    dir.AnswersAs dir' := by
  have harch := architecture_eq_of_perm hnames h
  refine ⟨?_, ?_, ?_, ?_, ?_, ?_, harch, ?_, ?_, h.map _⟩
  · intro state id
    rw [showRegister, showRegister, hregs]
  · intro state id
    rw [showOpcode, showOpcode, hops]
  · intro id
    rw [registerOwner?, registerOwner?, hregs]
  · intro id
    rw [opcodeOwner?, opcodeOwner?, hops]
  · rw [registerRanges, registerRanges, hregs]
  · rw [opcodeRanges, opcodeRanges, hops]
  · intro architecture name
    rw [registerId, registerId, harch]
  · intro architecture name
    rw [opcodeId, opcodeId, harch]

end Directory

namespace Startup

/-- Declarations in another order can be started with as well. -/
theorem Startable.of_perm {generic : List String} {declarations declarations' : List Declaration}
    (hs : Startable generic declarations) (h : declarations.Perm declarations') :
    Startable generic declarations' where
  key_ne_empty := hs.key_ne_empty
  nodup := hs.nodup
  builds := fun d hd => hs.builds d (h.mem_iff.mpr hd)
  compatible := (h.pairwise_iff Declaration.Compatible.symm).mp hs.compatible

/-- In another order the declarations are built into the same architectures. -/
theorem perm_of_built {generic : List String} {declarations declarations' : List Declaration}
    {as as' : List Architecture} (h : declarations.Perm declarations')
    (hbuilt : List.Forall₂ (Declaration.BuildsInto generic) declarations as)
    (hbuilt' : List.Forall₂ (Declaration.BuildsInto generic) declarations' as') : as.Perm as' := by
  obtain ⟨as'', hbuilt'', hperm⟩ := List.perm_comp_forall₂ h hbuilt'
  have hunique : Relator.RightUnique (Declaration.BuildsInto generic) := by
    intro d a b ha hb
    exact Except.ok.inj (ha.symm.trans hb)
  rw [List.right_unique_forall₂' hunique hbuilt hbuilt'']
  exact hperm

/-- **Declarations in another order start the same, with a directory that gives the same answers.** -/
theorem directory_of_perm {generic : List String} {declarations declarations' : List Declaration}
    (h : declarations.Perm declarations') :
    ((∃ dir : Directory ε, (ofDeclarations generic declarations).outcome = .ok dir) ↔
      ∃ dir' : Directory ε, (ofDeclarations generic declarations').outcome = .ok dir') ∧
    ∀ dir dir' : Directory ε, (ofDeclarations generic declarations).outcome = .ok dir →
      (ofDeclarations generic declarations').outcome = .ok dir' → dir.AnswersAs dir' := by
  refine ⟨?_, ?_⟩
  · rw [exists_ofDeclarations_iff, exists_ofDeclarations_iff]
    exact ⟨fun hs => hs.of_perm h, fun hs => hs.of_perm h.symm⟩
  · intro dir dir' hdir hdir'
    obtain ⟨-, as, hbuilt, hcompatible, rfl⟩ := ofDeclarations_eq_ok_iff.mp hdir
    obtain ⟨-, as', hbuilt', -, rfl⟩ := ofDeclarations_eq_ok_iff.mp hdir'
    have hperm := perm_of_built h hbuilt hbuilt'
    have horderly := orderly_populated (ε := ε) hbuilt hcompatible
    refine Directory.answersAs ?_ ?_ horderly.names_nodup hperm
    · exact Chart.ofList_eq_of_perm (horderly.apart .registers) (hperm.map _)
    · exact Chart.ofList_eq_of_perm (horderly.apart .opcodes) ((hperm.map _).cons _)

/-- Two architectures with a mnemonic in common, declared in either order. -/
theorem directory_of_swapped :
    ∃ dir dir' : Directory Unit,
      (ofDeclarations ["nop"]
        [⟨"x", 0, [⟨"r", 2, true⟩], [("zero", "r0"), ("one", "R1")], 1, ["add"]⟩,
          ⟨"y", 2, [⟨"r", 1, false⟩], [], 2, ["add"]⟩]).outcome = .ok dir ∧
      (ofDeclarations ["nop"]
        [⟨"y", 2, [⟨"r", 1, false⟩], [], 2, ["add"]⟩,
          ⟨"x", 0, [⟨"r", 2, true⟩], [("zero", "r0"), ("one", "R1")], 1, ["add"]⟩]).outcome =
            .ok dir' ∧
      dir.names = ["x", "y"] ∧ dir'.names = ["y", "x"] ∧ dir.AnswersAs dir' := by
  obtain ⟨dir, hdir, hnames⟩ := Except.map_eq_ok_iff.mp (show Except.map Directory.names
    (ofDeclarations ["nop"]
      [⟨"x", 0, [⟨"r", 2, true⟩], [("zero", "r0"), ("one", "R1")], 1, ["add"]⟩,
        ⟨"y", 2, [⟨"r", 1, false⟩], [], 2, ["add"]⟩] : Traced (Directory Unit)).outcome =
          .ok ["x", "y"] by decide +kernel)
  obtain ⟨dir', hdir', hnames'⟩ := Except.map_eq_ok_iff.mp (show Except.map Directory.names
    (ofDeclarations ["nop"]
      [⟨"y", 2, [⟨"r", 1, false⟩], [], 2, ["add"]⟩,
        ⟨"x", 0, [⟨"r", 2, true⟩], [("zero", "r0"), ("one", "R1")], 1, ["add"]⟩] :
          Traced (Directory Unit)).outcome = .ok ["y", "x"] by decide +kernel)
  exact ⟨dir, dir', hdir, hdir', hnames, hnames',
    (directory_of_perm (List.Perm.swap ..)).2 dir dir' hdir hdir'⟩

end Startup

end IsaNames
