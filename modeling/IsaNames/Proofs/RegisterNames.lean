import IsaNames.Proofs.Dispatch
import IsaNames.Proofs.Draft
import IsaNames.Proofs.Startup

/-!
# The register names of an architecture

What a register is called and shown by can be read off the declaration: where its bank is among the
banks, its number in the bank, and which names of the calling convention resolve to it.  No alias
takes a name or a display away from a register, whatever the order of banks and names.

## Main definitions

* `Declaration.HasRegister d j b i` — bank `j` of the declaration is `b` and has a register `i`.
* `Declaration.bankId` — the ID of a register, by its bank and its number there.
* `Declaration.Describes` — the names of a lexicon are the declared ones.
* `Declaration.RowsOf` — how the rows of the register lexicon come about.

## Main results

* `mem_layOut_iff` — the registers of banks that are laid out, by bank and number.
* `overlayNames_given` — which IDs the names of the calling convention go to, and what they add.
* `Provider.registers_described` — **the register lexicon that is built is the declared one.**
-/

namespace IsaNames

open Lexicon (Draft)
open Text (leastTooLong)

/-! ### Banks and numbers -/

namespace Declaration

/-- The bank at place `j` is `b`, and it has a register of number `i`. -/
def HasRegister (d : Declaration) (j : Nat) (b : Bank) (i : Nat) : Prop :=
  d.banks[j]? = some b ∧ (i : Int) < b.count

/-- The ID of register `i` of bank `j`: after the base come the registers of the banks before. -/
def bankId (d : Declaration) (j i : Nat) : Int :=
  d.registerBase + registerTotal (d.banks.take j) + i

end Declaration

/-- Register `i` of a bank that begins at the ID `first`. -/
def Bank.register (b : Bank) (first : Int) (i : Nat) : Numbered :=
  ⟨first + i, b.stem ++ toString i, b.showsConvention⟩

theorem Bank.mem_numbered_iff {b : Bank} {first : Int} {r : Numbered} :
    r ∈ b.numbered first ↔ ∃ i : Nat, (i : Int) < b.count ∧ r = b.register first i := by
  simp only [Bank.numbered_eq, List.mem_map, List.mem_range, Int.lt_toNat, Bank.register, eq_comm]

/-- The registers of banks that are laid out one after the other, by bank and number. -/
theorem mem_layOut_iff {first : Int} {banks : List Bank} {r : Numbered} :
    r ∈ layOut first banks ↔ ∃ (j : Nat) (b : Bank) (i : Nat), banks[j]? = some b ∧
      (i : Int) < b.count ∧ r = b.register (first + registerTotal (banks.take j)) i := by
  induction banks generalizing first with
  | nil => simp [layOut]
  | cons bank rest ih =>
    -- the bank in front is at place zero, and the others are one place further on
    have hshift : ∀ j, first + registerTotal ((bank :: rest).take (j + 1)) =
        first + bank.count + registerTotal (rest.take j) := by
      intro j
      rw [List.take_succ_cons, registerTotal, Int.add_assoc]
    rw [layOut, List.mem_append, Bank.mem_numbered_iff, ih]
    constructor
    · rintro (⟨i, hi, rfl⟩ | ⟨j, b, i, hb, hi, rfl⟩)
      · exact ⟨0, bank, i, rfl, hi, by simp [registerTotal]⟩
      · exact ⟨j + 1, b, i, hb, hi, by rw [hshift]⟩
    · rintro ⟨_ | j, b, i, hb, hi, rfl⟩
      · cases hb
        exact Or.inl ⟨i, hi, by simp [registerTotal]⟩
      · exact Or.inr ⟨j, b, i, hb, hi, by rw [hshift]⟩

theorem Declaration.mem_registers_iff {d : Declaration} {r : Numbered} :
    r ∈ d.registers ↔ ∃ j b i, d.HasRegister j b i ∧
      r = ⟨d.bankId j i, b.stem ++ toString i, b.showsConvention⟩ := by
  simp only [Declaration.registers, mem_layOut_iff, HasRegister, and_assoc]
  rfl

/-- The entry of a register among those of several. -/
theorem mem_bindings_of_mem (key : String → String) {registers : List Numbered} {r : Numbered}
    (h : r ∈ registers) : (key r.name, r.id) ∈ bindings key registers :=
  List.mem_map_of_mem (f := fun r => (key r.name, r.id)) h

/-! ### Where the names of the calling convention go -/

/-- Each name of the calling convention goes to the ID that it and its target stand for in the end,
and no other entries are added. -/
theorem overlayNames_given {d d' : Draft} {names : List (String × String)}
    {given : List (Int × String)} (h : overlayNames d names = .ok (d', given))
    (hd : d.content.Sound) :
    List.Forall₂ (fun p g => g.2 = p.1 ∧ d'.content.idOf? p.1 = some g.1 ∧
        d'.content.idOf? p.2 = some g.1) names given ∧
      ∀ e ∈ d'.content.entries, e ∈ d.content.entries ∨ ∃ p ∈ names, e.1 = d.content.key p.1 := by
  induction names generalizing d given with
  | nil =>
    cases h
    exact ⟨.nil, fun e he => Or.inl he⟩
  | cons row rest ih =>
    obtain ⟨name, target⟩ := row
    obtain ⟨⟨d₁, id⟩, hlink, h⟩ := Except.bind_eq_ok_iff.mp h
    obtain ⟨⟨d₂, given'⟩, hrest, h⟩ := Except.bind_eq_ok_iff.mp h
    cases h
    obtain ⟨htarget, hassign⟩ := Draft.link_eq_ok_iff.mp hlink
    have hd₁ := hd.assign hassign
    obtain ⟨hgiven, hentries⟩ := ih hrest hd₁
    obtain ⟨-, ⟨rows, rfl, -⟩, -⟩ :=
      overlayNames_grows (P := fun _ => True) hrest hd₁ fun _ _ => trivial
    -- what a name stands for once, it stands for in the end
    have htarget₁ : d₁.content.idOf? target = some id := by
      obtain ⟨rows₁, rfl, -⟩ := Draft.assign_grows (P := fun _ => True) trivial hassign
      exact Draft.idOf?_addEntries_of_some htarget rows₁
    refine ⟨.cons ⟨rfl, Draft.idOf?_addEntries_of_some (Draft.idOf?_of_assign hassign) rows,
      Draft.idOf?_addEntries_of_some htarget₁ rows⟩ hgiven, ?_⟩
    intro e he
    rw [(Draft.assign_keeps hassign).2] at hentries
    rcases hentries e he with he | ⟨p, hp, hkey⟩
    · rcases (Draft.mem_entries_assign_iff hassign).mp he with rfl | he
      · exact Or.inr ⟨(name, target), List.mem_cons_self .., rfl⟩
      · exact Or.inl he
    · exact Or.inr ⟨p, List.mem_cons_of_mem _ hp, hkey⟩

/-- The name that an ID was given first is the first one declared that stands for it. -/
theorem lookup_given {x : Lexicon} {names : List (String × String)} {given : List (Int × String)}
    (h : List.Forall₂ (fun p g => g.2 = p.1 ∧ x.idOf? p.1 = some g.1 ∧ x.idOf? p.2 = some g.1)
      names given) (id : Int) :
    given.lookup id = (names.find? fun p => x.idOf? p.1 = some id).map (·.1) := by
  induction h with
  | nil => rfl
  | @cons p g names given hpg hrest ih =>
    obtain ⟨id', name⟩ := g
    obtain ⟨rfl, hid, -⟩ := hpg
    dsimp only at hid
    rw [List.lookup_cons, List.find?_cons, hid, ih]
    by_cases heq : id = id'
    · simp [heq]
    · have hne : (id == id') = false := beq_false_of_ne heq
      simp [hne, Ne.symm heq]

/-! ### The lexicon of the registers -/

namespace Declaration

/-- The names of a lexicon with the given range are the declared ones. -/
structure Describes (d : Declaration) (range : IdRange) (x : Lexicon) : Prop where
  range_eq : (range.base : Int) = d.registerBase ∧ (range.size : Int) = registerTotal d.banks
  /-- The IDs of the range are those of the registers of the banks. -/
  mem_range_iff : ∀ id : Int, id ∈ range ↔ ∃ j b i, d.HasRegister j b i ∧ id = d.bankId j i
  /-- The numbered name of a register stands for its ID. -/
  idOf_numbered : ∀ j b i, d.HasRegister j b i →
    x.idOf (b.stem ++ toString i) = .ok (d.bankId j i)
  /-- A name of the calling convention stands for what its target stands for. -/
  idOf_convention : ∀ p ∈ d.conventionNames, ∃ id, x.idOf p.1 = .ok id ∧ x.idOf p.2 = .ok id
  /-- There are no other names. -/
  mem_names : ∀ k ∈ x.names,
    (∃ j b i, d.HasRegister j b i ∧ k = Text.key true (b.stem ++ toString i)) ∨
      ∃ p ∈ d.conventionNames, k = Text.key true p.1
  /-- A register of a bank that is not shown by the calling convention is shown by its numbered
  name. -/
  display_numbered : ∀ j b i, d.HasRegister j b i → b.showsConvention = false →
    (x.display (d.bankId j i)).write? = some (Text.stripped (b.stem ++ toString i))
  /-- One of a bank that is shown by the calling convention is shown by the first name declared there
  that stands for it. -/
  display_convention : ∀ j b i, d.HasRegister j b i → b.showsConvention = true →
    ∃ p, (d.conventionNames.find? fun p => x.idOf? p.1 = some (d.bankId j i)) = some p ∧
      (x.display (d.bankId j i)).write? = some (Text.stripped p.1)
  /-- An ID outside of the range is shown by the fallback and its number; a number of more digits than
  can be written has no text. -/
  display_outside : ∀ id : Int, id ∉ range → (x.display id).write? =
    if id.natAbs < leastTooLong then some ("R???" ++ toString id) else none
  hasDisplay_iff : ∀ id, x.hasDisplay id = true ↔ id ∈ range
  idOf_mem : ∀ name id, x.idOf name = .ok id → id ∈ range

/-- How the rows of a lexicon come about: from the registers, and from the names of the calling
convention, which went to the IDs in `given`. -/
structure RowsOf (d : Declaration) (given : List (Int × String)) (x : Lexicon) : Prop where
  sound : x.Sound
  key_eq : x.key = Text.key true
  fallback_eq : x.fallback = Lexicon.registerFallback
  idOf?_numbered : ∀ r ∈ d.registers, x.idOf? r.name = some r.id
  idOf?_given : List.Forall₂ (fun p g => g.2 = p.1 ∧ x.idOf? p.1 = some g.1 ∧ x.idOf? p.2 = some g.1)
    d.conventionNames given
  mem_names : ∀ k ∈ x.names, (∃ r ∈ d.registers, k = Text.key true r.name) ∨
    ∃ p ∈ d.conventionNames, k = Text.key true p.1
  ids_nodup : (d.registers.map (·.id)).Nodup
  mem_ids : ∀ e ∈ x.entries, e.2 ∈ d.registers.map (·.id)
  displays_eq : x.displays = shownRows d.registers given
  isSome_shownBy? : ∀ r ∈ d.registers, (r.shownBy? given).isSome = true

variable {d : Declaration} {x : Lexicon} {ranges : List IdRange} {given : List (Int × String)}

theorem rowsOf_of_buildRegisters (h : d.buildRegisters.outcome = .ok (x, ranges)) :
    ∃ given, d.RowsOf given x := by
  obtain ⟨hsound, hids, -⟩ := buildRegisters_spec h
  obtain ⟨-, hcounts, hkeys, draft, given, hover, hconv, hx, -⟩ := buildRegisters_eq_ok_iff.mp h
  have hnumbered := sound_numberedDraft hkeys
  obtain ⟨hgiven, hentries⟩ := overlayNames_given hover hnumbered
  obtain ⟨-, ⟨rows, rfl, -⟩, -⟩ :=
    overlayNames_grows (P := fun _ => True) hover hnumbered fun _ _ => trivial
  -- showing registers adds no names
  have hsame : ∀ name, x.idOf? name = (d.numberedDraft.addEntries rows).content.idOf? name := by
    intro name
    rw [hx, Draft.idOf?_addDisplays]
  simp only [← hsame] at hgiven
  refine ⟨given, hsound, by rw [hx]; rfl, by rw [hx]; rfl, ?_, hgiven, ?_,
    nodup_ids_registers hcounts, by rwa [map_id_registers hcounts], by rw [hx]; rfl, ?_⟩
  · intro r hr
    rw [hsame]
    exact Draft.idOf?_addEntries_of_some
      (hnumbered.idOf?_eq_some_iff.mpr (mem_bindings_of_mem (Text.key true) hr)) rows
  · intro k hk
    rw [hx] at hk
    obtain ⟨e, he, rfl⟩ := List.mem_map.mp hk
    refine (hentries e he).imp_left fun he => ?_
    obtain ⟨r, hr, rfl⟩ := List.mem_map.mp he
    exact ⟨r, hr, rfl⟩
  · intro r hr
    exact Numbered.isSome_shownBy?_iff.mpr (hconv r hr)

namespace RowsOf

variable {r : Numbered}

/-- The names were entered under their keys. -/
theorem normal (h : d.RowsOf given x) : x.Normal := by
  refine { h.sound with key_key := ?_ }
  intro e he
  rw [h.key_eq]
  rcases h.mem_names e.1 (List.mem_map_of_mem he) with ⟨r, -, hk⟩ | ⟨p, -, hk⟩
  · rw [hk, Text.key_key]
  · rw [hk, Text.key_key]

theorem idOf_mem (h : d.RowsOf given x) {name : String} {id : Int} (hid : x.idOf name = .ok id) :
    id ∈ d.registers.map (·.id) :=
  h.mem_ids _ (Lexicon.mem_entries_of_idOf? (Lexicon.idOf_eq_ok_iff.mp hid))

/-- Exactly the registers are shown by names. -/
theorem hasDisplay_iff (h : d.RowsOf given x) {id : Int} :
    x.hasDisplay id = true ↔ id ∈ d.registers.map (·.id) := by
  constructor
  · intro hdisplay
    obtain ⟨text, -, htext⟩ := h.sound.idOf_display hdisplay
    exact h.idOf_mem htext
  · intro hid
    obtain ⟨r, hr, rfl⟩ := List.mem_map.mp hid
    rw [Lexicon.hasDisplay_iff, h.displays_eq, mem_shownRows_iff h.ids_nodup hr]
    exact h.isSome_shownBy? r hr

/-- A register is shown by the name that it is to be shown by. -/
theorem write?_display (h : d.RowsOf given x) (hr : r ∈ d.registers) {name : String}
    (hname : r.shownBy? given = some name) :
    (x.display r.id).write? = some (Text.stripped name) := by
  have hdisplay : x.display? r.id = some (Text.stripped name) := by
    rw [h.sound.display?_eq_some_iff, h.displays_eq, shownRows, List.mem_filterMap]
    exact ⟨r, hr, by rw [hname]; rfl⟩
  rw [Lexicon.display, hdisplay]
  rfl

/-- A name of the calling convention that shows a register is the first one declared that stands for
it. -/
theorem exists_find? (h : d.RowsOf given x) (hr : r ∈ d.registers)
    (hshows : r.showsConvention = true) :
    ∃ p, (d.conventionNames.find? fun p => x.idOf? p.1 = some r.id) = some p ∧
      r.shownBy? given = some p.1 := by
  have hshown : r.shownBy? given =
      (d.conventionNames.find? fun p => x.idOf? p.1 = some r.id).map (·.1) := by
    rw [Numbered.shownBy?, if_pos hshows, lookup_given h.idOf?_given]
  have hsome := h.isSome_shownBy? r hr
  rw [hshown, Option.isSome_map] at hsome
  obtain ⟨p, hp⟩ := Option.isSome_iff_exists.mp hsome
  rw [hshown, hp]
  exact ⟨p, rfl, rfl⟩

/-- An ID that is not one of a register is shown by the fallback. -/
theorem write?_display_outside (h : d.RowsOf given x) {id : Int}
    (hid : id ∉ d.registers.map (·.id)) : (x.display id).write? =
      if id.natAbs < leastTooLong then some ("R???" ++ toString id) else none := by
  rw [← h.hasDisplay_iff, Lexicon.hasDisplay, Option.isSome_iff_ne_none, Ne,
    Decidable.not_not] at hid
  rw [Lexicon.display, hid, h.fallback_eq]
  exact write?_fallbackPhrase _ _

end RowsOf

/-- The register lexicon of a declaration is the declared one. -/
theorem describes_of_buildRegisters (h : d.buildRegisters.outcome = .ok (x, ranges)) :
    d.Describes ⟨d.registerBase.toNat, registerCount d.banks⟩ x := by
  obtain ⟨given, hrows⟩ := rowsOf_of_buildRegisters h
  obtain ⟨hbase, hcounts, -⟩ := buildRegisters_eq_ok_iff.mp h
  have hmem : ∀ id : Int, id ∈ (⟨d.registerBase.toNat, registerCount d.banks⟩ : IdRange) ↔
      id ∈ d.registers.map (·.id) := by
    intro id
    rw [map_id_registers hcounts]
    exact IdRange.mem_toNat_iff hbase
  have hregister : ∀ {j b i}, d.HasRegister j b i →
      (⟨d.bankId j i, b.stem ++ toString i, b.showsConvention⟩ : Numbered) ∈ d.registers :=
    fun hreg => mem_registers_iff.mpr ⟨_, _, _, hreg, rfl⟩
  refine ⟨⟨Int.toNat_of_nonneg hbase, (registerTotal_eq hcounts).symm⟩, ?_, ?_, ?_, ?_, ?_, ?_, ?_,
    ?_, ?_⟩
  · intro id
    rw [hmem, List.mem_map]
    constructor
    · rintro ⟨r, hr, rfl⟩
      obtain ⟨j, b, i, hreg, rfl⟩ := mem_registers_iff.mp hr
      exact ⟨j, b, i, hreg, rfl⟩
    · rintro ⟨j, b, i, hreg, rfl⟩
      exact ⟨_, hregister hreg, rfl⟩
  · intro j b i hreg
    have hid := hrows.idOf?_numbered _ (hregister hreg)
    exact Lexicon.idOf_eq_ok_iff.mpr hid
  · intro p hp
    obtain ⟨g, -, hname, htarget⟩ := List.exists_of_forall₂_of_mem hrows.idOf?_given.flip hp
    exact ⟨g.1, Lexicon.idOf_eq_ok_iff.mpr hname, Lexicon.idOf_eq_ok_iff.mpr htarget⟩
  · intro k hk
    refine (hrows.mem_names k hk).imp_left ?_
    rintro ⟨r, hr, rfl⟩
    obtain ⟨j, b, i, hreg, rfl⟩ := mem_registers_iff.mp hr
    exact ⟨j, b, i, hreg, rfl⟩
  · intro j b i hreg hshows
    refine hrows.write?_display (hregister hreg) ?_
    rw [Numbered.shownBy?, hshows]
    rfl
  · intro j b i hreg hshows
    obtain ⟨p, hp, hname⟩ := hrows.exists_find? (hregister hreg) hshows
    exact ⟨p, hp, hrows.write?_display (hregister hreg) hname⟩
  · intro id hid
    rw [hmem] at hid
    exact hrows.write?_display_outside hid
  · intro id
    rw [hmem, hrows.hasDisplay_iff]
  · intro name id hid
    exact (hmem id).mpr (hrows.idOf_mem hid)

/-- So is the register lexicon of the architecture that a declaration is built into. -/
theorem describes_of_build {generic : List String} {a : Architecture}
    (h : (d.build generic).outcome = .ok a) : d.Describes a.registerRange a.registers := by
  obtain ⟨x, ranges, hregs, -, rfl⟩ := build_eq_ok_iff.mp h
  exact describes_of_buildRegisters hregs

end Declaration

namespace Provider

/-- **The register lexicon that is built is the declared one**: names stand for the IDs that the
banks and the calling convention give them, there are no other names, and each ID of the range is
shown as its bank asks for. -/
theorem registers_described {d : Declaration} {generic : List String} {a : Architecture}
    (h : (build generic { declaration := d }).2.outcome = .ok a) :
    d.Describes a.registerRange a.registers :=
  Declaration.describes_of_build (build_of_fresh h)

/-- Two banks that are shown by the calling convention around one that is not, an empty one, an alias
of an alias, and a second name for a register. -/
theorem registers_described_of_mixed_banks :
    ∃ a, (build ["nop"] { declaration :=
        { name := "x"
          registerBase := 32
          banks := [⟨"a", 2, true⟩, ⟨"r", 2, false⟩, ⟨"f", 0, false⟩, ⟨"A1", 1, true⟩]
          conventionNames := [("Zero", "A0"), ("zero ", "ZERO"), ("r2", "R1"), ("one", "zero"),
            (" ra", "a1"), ("fp", "a10")]
          opcodeBase := 1
          mnemonics := ["add"] } }).2.outcome = .ok a ∧
      Declaration.Describes
        { name := "x"
          registerBase := 32
          banks := [⟨"a", 2, true⟩, ⟨"r", 2, false⟩, ⟨"f", 0, false⟩, ⟨"A1", 1, true⟩]
          conventionNames := [("Zero", "A0"), ("zero ", "ZERO"), ("r2", "R1"), ("one", "zero"),
            (" ra", "a1"), ("fp", "a10")]
          opcodeBase := 1
          mnemonics := ["add"] } a.registerRange a.registers := by
  obtain ⟨a, ha⟩ : ∃ a, (build ["nop"] { declaration :=
      { name := "x"
        registerBase := 32
        banks := [⟨"a", 2, true⟩, ⟨"r", 2, false⟩, ⟨"f", 0, false⟩, ⟨"A1", 1, true⟩]
        conventionNames := [("Zero", "A0"), ("zero ", "ZERO"), ("r2", "R1"), ("one", "zero"),
          (" ra", "a1"), ("fp", "a10")]
        opcodeBase := 1
        mnemonics := ["add"] } }).2.outcome = .ok a := ⟨_, rfl⟩
  exact ⟨a, ha, registers_described ha⟩

/-- An ID outside of the range that has more digits than can be written has no text. -/
theorem display_outside_unwritable :
    ∃ a, (build [] { declaration := ⟨"x", 0, [⟨"r", 1, false⟩], [], 0, []⟩ }).2.outcome = .ok a ∧
      (leastTooLong : Int) ∉ a.registerRange ∧
      (a.registers.display (leastTooLong : Int)).write? = none := by
  obtain ⟨a, ha⟩ : ∃ a, (build [] { declaration := ⟨"x", 0, [⟨"r", 1, false⟩], [], 0, []⟩ }).2.outcome
      = .ok a := ⟨_, rfl⟩
  have hdescribes := Declaration.describes_of_build (build_of_fresh ha)
  have hlong := Text.one_lt_leastTooLong
  have hout : (leastTooLong : Int) ∉ a.registerRange := by
    obtain ⟨hbase, hsize⟩ := hdescribes.range_eq
    simp only [registerTotal] at hbase hsize
    rw [IdRange.mem_iff]
    omega
  refine ⟨a, ha, hout, ?_⟩
  rw [hdescribes.display_outside _ hout, Int.natAbs_natCast, if_neg (Nat.lt_irrefl _)]

end Provider

end IsaNames
