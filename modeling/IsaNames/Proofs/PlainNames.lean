import IsaNames.Builtin
import IsaNames.Proofs.Admission
import IsaNames.Proofs.RegisterNames

/-!
# Declarations in plain letters

A name in small letters, digits and dots is its own key.  Whether a declaration in such names is
well-formed can be told from the names as they are written, and the built-in declarations are.

## Main definitions

* `Text.IsPlain` — a text in plain characters.
* `Declaration.IsPlain` — a declaration in plain names, all of them different.

## Main results

* `Text.IsPlain.key_eq` — a plain name is its own key.
* `Overlays.of_fresh` — new names can be laid over bindings.
* `Declaration.IsPlain.wellFormed` — **a plain declaration is well-formed.**
* `Builtin.startable` — **a program can start with the built-in architectures.**
-/

namespace IsaNames

namespace Text

/-! ### Plain names -/

/-- Characters that are neither blanks nor changed by lower casing. -/
def plainChars : List Char := "abcdefghijklmnopqrstuvwxyz0123456789.".toList

/-- A text in plain characters. -/
def IsPlain (text : String) : Prop := ∀ c ∈ text.toList, c ∈ plainChars

instance (text : String) : Decidable (IsPlain text) :=
  List.decidableBAll (· ∈ plainChars) text.toList

theorem plainChars_spec : ∀ c ∈ plainChars, IsSettled c ∧ isBlank c = false := by
  have hall : ∀ c ∈ plainChars,
      (c ≠ 'Σ' ∧ c ≠ 'İ' ∧ lowerChar c = c) ∧ isBlank c = false :=
    forall_mem_of_all (by decide +kernel)
  intro c hc
  obtain ⟨⟨hsigma, hdotted, hlower⟩, hblank⟩ := hall c hc
  exact ⟨⟨hsigma, hdotted, hlower⟩, hblank⟩

/-- **A plain name is its own key.** -/
theorem IsPlain.key_eq {name : String} (h : IsPlain name) (foldCase : Bool) :
    key foldCase name = name := by
  have hstrip : strip name.toList = name.toList :=
    trimWhile_eq_self fun c hc => (plainChars_spec c (h c hc)).2
  have hlower : lower name.toList = name.toList :=
    lowerFrom_eq_self fun c hc => (plainChars_spec c (h c hc)).1
  rw [key]
  simp only [hstrip, hlower, ite_self, String.ofList_toList]

theorem map_key_of_isPlain {names : List String} (h : ∀ name ∈ names, IsPlain name) :
    names.map (key true) = names := by
  rw [List.map_congr_left fun name hname => (h name hname).key_eq true, List.map_id']

/-- A plain stem makes plain names of numbers. -/
theorem IsPlain.append_toString {stem : String} (h : IsPlain stem) (n : Nat) :
    IsPlain (stem ++ toString n) := by
  have hdigits : ∀ code ∈ List.range' 48 10, Char.ofNat code ∈ plainChars := by decide +kernel
  intro c hc
  rw [String.toList_append, List.mem_append, Nat.toString_eq_repr, Nat.toList_repr] at hc
  rcases hc with hc | hc
  · exact h c hc
  · have hdigit : c.isDigit = true := Nat.isDigit_of_mem_toDigits (by decide) (by decide) hc
    rw [Char.isDigit_iff_toNat, show '0'.toNat = 48 from rfl, show '9'.toNat = 57 from rfl] at hdigit
    have hmem := hdigits c.toNat (List.mem_range'_1.mpr (by omega))
    rwa [Char.ofNat_toNat] at hmem

end Text

/-! ### Names that are laid over others -/

/-- Names can be laid over bindings if their keys are new and differ, and what they are for is
bound. -/
theorem Overlays.of_fresh {bound : List (String × Int)} {names : List (String × String)}
    (idOf : String → Int) (htarget : ∀ p ∈ names, (Text.key true p.2, idOf p.2) ∈ bound)
    (hfresh : ∀ p ∈ names, Text.key true p.1 ≠ "" ∧ Text.key true p.1 ∉ bound.map (·.1))
    (hnodup : (names.map fun p => Text.key true p.1).Nodup) :
    Overlays bound names (names.map fun p => (idOf p.2, p.1)) := by
  induction names generalizing bound with
  | nil => exact .nil
  | cons p rest ih =>
    obtain ⟨name, target⟩ := p
    rw [List.forall_mem_cons] at htarget hfresh
    rw [List.map_cons, List.nodup_cons] at hnodup
    refine .cons htarget.1 hfresh.1.1 ?_ (ih ?_ ?_ hnodup.2)
    · intro old hold
      exact absurd (List.mem_map_of_mem hold) hfresh.1.2
    · exact fun p hp => List.mem_cons_of_mem _ (htarget.2 p hp)
    · intro p hp
      refine ⟨(hfresh.2 p hp).1, ?_⟩
      rw [List.map_cons, List.mem_cons, not_or]
      refine ⟨?_, (hfresh.2 p hp).2⟩
      intro heq
      have hkey : Text.key true p.1 ∈ rest.map fun p => Text.key true p.1 := List.mem_map_of_mem hp
      rw [heq] at hkey
      exact hnodup.1 hkey

/-! ### Plain declarations -/

namespace Declaration

/-- A well-formed declaration is built into an architecture. -/
theorem WellFormed.exists_build {d : Declaration} {generic : List String} (h : d.WellFormed generic) :
    ∃ a, (d.build generic).outcome = .ok a := by
  obtain ⟨⟨x, ranges⟩, hregs⟩ := exists_buildRegisters_iff.mpr h.toRegistersWellFormed
  exact ⟨_, build_eq_ok_iff.mpr ⟨x, ranges, hregs, h.toOpcodesWellFormed, rfl⟩⟩

/-- A declaration in plain names, all of them different, with a name of the calling convention for
each register that is to be shown by one. -/
structure IsPlain (d : Declaration) (generic : List String) : Prop where
  base_nonneg : 0 ≤ d.registerBase
  count_nonneg : ∀ b ∈ d.banks, 0 ≤ b.count
  stem_plain : ∀ b ∈ d.banks, Text.IsPlain b.stem
  registers_nodup : (d.registers.map (·.name)).Nodup
  convention_plain : ∀ p ∈ d.conventionNames, Text.IsPlain p.1 ∧ p.1 ≠ ""
  convention_nodup : (d.conventionNames.map (·.1)).Nodup
  convention_fresh : ∀ p ∈ d.conventionNames, p.1 ∉ d.registers.map (·.name)
  target_mem : ∀ p ∈ d.conventionNames, p.2 ∈ d.registers.map (·.name)
  shown : ∀ r ∈ d.registers, r.showsConvention = true → r.name ∈ d.conventionNames.map (·.2)
  length_le_base : (generic.length : Int) ≤ d.opcodeBase
  mnemonics_plain : ∀ name ∈ generic ++ d.mnemonics, Text.IsPlain name ∧ name ≠ ""
  mnemonics_nodup : (generic ++ d.mnemonics).Nodup

/-- The ID of the register with a numbered name. -/
def numberedId (d : Declaration) (name : String) : Int :=
  ((d.registers.map fun r => (r.name, r.id)).lookup name).getD 0

namespace IsPlain

variable {d : Declaration} {generic : List String}

/-- The numbered names are plain, too. -/
theorem register_plain (h : d.IsPlain generic) {name : String}
    (hname : name ∈ d.registers.map (·.name)) : Text.IsPlain name := by
  obtain ⟨r, hr, rfl⟩ := List.mem_map.mp hname
  obtain ⟨j, b, i, ⟨hb, -⟩, rfl⟩ := mem_registers_iff.mp hr
  exact (h.stem_plain b (List.mem_of_getElem? hb)).append_toString i

/-- A register is bound to its ID by its numbered name as it is written. -/
theorem bindings_eq (h : d.IsPlain generic) :
    bindings (Text.key true) d.registers = d.registers.map fun r => (r.name, r.id) := by
  refine List.map_congr_left fun r hr => ?_
  rw [(h.register_plain (List.mem_map_of_mem hr)).key_eq]

theorem numberedId_eq (h : d.IsPlain generic) {r : Numbered} (hr : r ∈ d.registers) :
    d.numberedId r.name = r.id := by
  have hnodup : ((d.registers.map fun r => (r.name, r.id)).map (·.1)).Nodup := by
    rw [List.map_map]
    exact h.registers_nodup
  have hlookup : (d.registers.map fun r => (r.name, r.id)).lookup r.name = some r.id :=
    (List.lookup_eq_some_iff_mem hnodup).mpr (List.mem_map_of_mem hr)
  rw [numberedId, hlookup, Option.getD_some]

theorem registersWellFormed (h : d.IsPlain generic) : d.RegistersWellFormed where
  base_nonneg := h.base_nonneg
  count_nonneg := h.count_nonneg
  keys_nodup := by
    have hplain := Text.map_key_of_isPlain fun name => h.register_plain
    rw [List.map_map] at hplain
    exact hplain ▸ h.registers_nodup
  overlays := by
    refine ⟨_, Overlays.of_fresh d.numberedId ?_ ?_ ?_, ?_⟩
    · intro p hp
      obtain ⟨r, hr, hname⟩ := List.mem_map.mp (h.target_mem p hp)
      rw [h.bindings_eq, (h.register_plain (h.target_mem p hp)).key_eq, ← hname, h.numberedId_eq hr]
      exact List.mem_map_of_mem hr
    · intro p hp
      have hnames : (bindings (Text.key true) d.registers).map (·.1) = d.registers.map (·.name) := by
        rw [h.bindings_eq, List.map_map]
        rfl
      rw [(h.convention_plain p hp).1.key_eq, hnames]
      exact ⟨(h.convention_plain p hp).2, h.convention_fresh p hp⟩
    · rw [List.map_congr_left fun p hp => (h.convention_plain p hp).1.key_eq true]
      exact h.convention_nodup
    · intro r hr hshows
      obtain ⟨p, hp, hname⟩ := List.mem_map.mp (h.shown r hr hshows)
      rw [List.map_map, List.mem_map]
      exact ⟨p, hp, (congrArg d.numberedId hname).trans (h.numberedId_eq hr)⟩

/-- **A plain declaration is well-formed.** -/
theorem wellFormed (h : d.IsPlain generic) : d.WellFormed generic where
  toRegistersWellFormed := h.registersWellFormed
  length_le_base := h.length_le_base
  key_ne_empty := by
    intro name hname
    obtain ⟨hplain, hne⟩ := h.mnemonics_plain name hname
    rwa [hplain.key_eq]
  mnemonics_nodup := by
    rw [Text.map_key_of_isPlain fun name hname => (h.mnemonics_plain name hname).1]
    exact h.mnemonics_nodup

end IsPlain

end Declaration

/-! ### The built-in declarations -/

namespace Builtin

theorem mips_isPlain : mips.IsPlain generic := by
  constructor <;> decide +kernel

theorem riscv_isPlain : riscv.IsPlain generic := by
  constructor <;> decide +kernel

/-- The built-in declarations ask for different ranges. -/
theorem mips_compatible_riscv : mips.Compatible riscv where
  name_ne := by decide
  registers_apart := by
    intro r q hr hq
    cases hr
    cases hq
    decide
  opcodes_apart := by
    intro r q hr hq
    cases hr
    cases hq
    decide

/-- **A program can start with the built-in architectures.** -/
theorem startable : Startup.Startable generic declarations where
  key_ne_empty := by
    intro name hname
    exact riscv_isPlain.wellFormed.key_ne_empty name (List.mem_append_left _ hname)
  nodup := by
    have hnodup := riscv_isPlain.wellFormed.mnemonics_nodup
    rw [List.map_append] at hnodup
    exact hnodup.of_append_left
  builds := by
    simp only [declarations, List.forall_mem_cons, Declaration.BuildsInto]
    rw [Provider.outcome_build_fresh (by decide), Provider.outcome_build_fresh (by decide)]
    exact ⟨mips_isPlain.wellFormed.exists_build, riscv_isPlain.wellFormed.exists_build,
      List.forall_mem_nil _⟩
  compatible := by simp [declarations, mips_compatible_riscv]

end Builtin

end IsaNames
