import IsaNames.Proofs.Banks

/-!
# Building the lexicon of the registers

The registers are built in phases: numbered names, names of the calling convention over them, what
each register is shown by, and the check that all are shown.  Each phase is told apart from the
others by what it needs of the draft before it and what it leaves.

## Main definitions

* `Overlays` — names that can be laid over bindings, and the IDs they go to.
* `Declaration.registers` — the registers of all banks.
* `Declaration.RegistersWellFormed` — what is asked of banks and names.

## Main results

* `exists_overlayNames_iff` — when names can be laid over what is there.
* `showRegisters_eq` — **what a register is shown by is never refused.**
* `Declaration.exists_buildRegisters_iff` — **the lexicon of the registers is built exactly if they
  are well-formed.**
* `Declaration.buildRegisters_error` — what is wrong otherwise.
-/

namespace IsaNames

open Lexicon (Draft)

variable {P : Int → Prop} {d d' : Draft} {f : Flaw} {e : Fault}

/-! ### Names of the calling convention -/

/-- Names can be laid over bindings, in order: what each one is for is bound, by a key there or by an
earlier name, and its own key is not empty and not bound to anything else.  The last list tells
which IDs the names go to. -/
inductive Overlays : List (String × Int) → List (String × String) → List (Int × String) → Prop
  | nil {bound : List (String × Int)} : Overlays bound [] []
  | cons {bound : List (String × Int)} {name target : String} {id : Int}
      {rest : List (String × String)} {given : List (Int × String)}
      (htarget : (Text.key true target, id) ∈ bound)
      (hname : Text.key true name ≠ "")
      (hfree : ∀ old, (Text.key true name, old) ∈ bound → old = id)
      (hrest : Overlays ((Text.key true name, id) :: bound) rest given) :
      Overlays bound ((name, target) :: rest) ((id, name) :: given)

/-- Names can be laid over a draft exactly if they can be laid over its entries. -/
theorem exists_overlayNames_iff (hd : d.content.Sound) (hopen : d.isClosed = false)
    (hkey : d.content.key = Text.key true) {bound : List (String × Int)}
    (hbound : ∀ e, e ∈ d.content.entries ↔ e ∈ bound) {names : List (String × String)}
    {given : List (Int × String)} :
    (∃ d', overlayNames d names = .ok (d', given)) ↔ Overlays bound names given := by
  induction names generalizing d bound given with
  | nil =>
    constructor
    · rintro ⟨d', h⟩
      cases h
      exact .nil
    · rintro ⟨⟩
      exact ⟨d, rfl⟩
  | cons row rest ih =>
    obtain ⟨name, target⟩ := row
    -- once a name was accepted, the entries are the bindings with one more
    have hstep : ∀ {id d₁ given'}, d.assign name id = .ok d₁ →
        ((∃ d', overlayNames d₁ rest = .ok (d', given')) ↔
          Overlays ((Text.key true name, id) :: bound) rest given') := by
      intro id d₁ given' hassign
      have hkeeps := Draft.assign_keeps hassign
      refine ih (hd.assign hassign) hkeeps.1 (hkeeps.2.trans hkey) fun e => ?_
      rw [Draft.mem_entries_assign_iff hassign, hkey, hbound, List.mem_cons]
    constructor
    · rintro ⟨d', h⟩
      obtain ⟨⟨d₁, id⟩, hlink, h⟩ := Except.bind_eq_ok_iff.mp h
      obtain ⟨⟨d₂, given'⟩, hrest, h⟩ := Except.bind_eq_ok_iff.mp h
      cases h
      obtain ⟨htarget, hassign⟩ := Draft.link_eq_ok_iff.mp hlink
      obtain ⟨hname, hfree⟩ := (hd.exists_assign_iff hopen).mp ⟨_, hassign⟩
      rw [hd.idOf?_eq_some_iff, hkey, hbound] at htarget
      simp only [hkey, hbound] at hname hfree
      exact .cons htarget hname hfree ((hstep hassign).mp ⟨_, hrest⟩)
    · intro h
      cases h with
      | @cons _ _ _ id _ given' htarget hname hfree hrest =>
        rw [← hbound, ← hkey, ← hd.idOf?_eq_some_iff] at htarget
        simp only [← hkey, ← hbound] at hname hfree
        obtain ⟨d₁, hassign⟩ := (hd.exists_assign_iff hopen).mpr ⟨hname, hfree⟩
        obtain ⟨d', hd'⟩ := (hstep hassign).mpr hrest
        refine ⟨d', ?_⟩
        rw [overlayNames, Draft.link_eq_ok_iff.mpr ⟨htarget, hassign⟩]
        change (overlayNames d₁ rest >>= _) = _
        rw [hd']
        rfl

/-- Names that were laid over a draft add entries for IDs that had one before, and they stand for the
IDs they went to. -/
theorem overlayNames_grows {names : List (String × String)} {given : List (Int × String)}
    (h : overlayNames d names = .ok (d', given)) (hd : d.content.Sound)
    (hP : ∀ e ∈ d.content.entries, P e.2) :
    d'.content.Sound ∧ (∃ rows, d' = d.addEntries rows ∧ ∀ row ∈ rows, P row.2) ∧
      ∀ g ∈ given, d'.content.idOf? g.2 = some g.1 := by
  induction names generalizing d given with
  | nil =>
    cases h
    exact ⟨hd, ⟨[], (Draft.addEntries_nil _).symm, List.forall_mem_nil _⟩, List.forall_mem_nil _⟩
  | cons row rest ih =>
    obtain ⟨name, target⟩ := row
    obtain ⟨⟨d₁, id⟩, hlink, h⟩ := Except.bind_eq_ok_iff.mp h
    obtain ⟨⟨d₂, given'⟩, hrest, h⟩ := Except.bind_eq_ok_iff.mp h
    cases h
    obtain ⟨htarget, hassign⟩ := Draft.link_eq_ok_iff.mp hlink
    have hid : P id := hP _ (Lexicon.mem_entries_of_idOf? htarget)
    obtain ⟨hd₂, ⟨rows, rfl, hrows⟩, hgiven⟩ :=
      ih hrest (hd.assign hassign) (Draft.forall_entries_assign hP hid hassign)
    refine ⟨hd₂, ?_, List.forall_mem_cons.mpr ⟨?_, hgiven⟩⟩
    · obtain ⟨rows', rfl, hrows'⟩ := Draft.assign_grows hid hassign
      exact ⟨rows' ++ rows, Draft.addEntries_addEntries _ _ _,
        List.forall_mem_append.mpr ⟨hrows', hrows⟩⟩
    · exact Draft.idOf?_addEntries_of_some (Draft.idOf?_of_assign hassign) rows

/-- A name of the calling convention is refused as an alias. -/
theorem overlayNames_error (hopen : d.isClosed = false) (hP : ∀ e ∈ d.content.entries, P e.2)
    {names : List (String × String)} (h : overlayNames d names = .error f) : f.FoundIn P := by
  induction names generalizing d with
  | nil => cases h
  | cons row rest ih =>
    obtain ⟨name, target⟩ := row
    rcases Except.bind_eq_error_iff.mp h with h | ⟨⟨d₁, id⟩, hlink, h⟩
    · exact Draft.link_error hopen hP h
    · obtain ⟨htarget, hassign⟩ := Draft.link_eq_ok_iff.mp hlink
      rcases Except.bind_eq_error_iff.mp h with h | ⟨_, -, h⟩
      · refine ih (Draft.assign_keeps hassign).1 ?_ h
        exact Draft.forall_entries_assign hP (hP _ (Lexicon.mem_entries_of_idOf? htarget)) hassign
      · cases h

/-! ### What registers are shown by -/

/-- The displays of registers that are shown by a name. -/
def shownRows (registers : List Numbered) (given : List (Int × String)) : List (Int × String) :=
  registers.filterMap fun r => (r.shownBy? given).map fun name => (r.id, Text.stripped name)

/-- **What a register is shown by is never refused**: the IDs of the registers are different and not
shown yet, and the name that is to be shown stands for the register. -/
theorem showRegisters_eq (hopen : d.isClosed = false) {registers : List Numbered}
    {given : List (Int × String)} (hids : (registers.map (·.id)).Nodup)
    (hfresh : ∀ r ∈ registers, ∀ e ∈ d.content.displays, e.1 ≠ r.id)
    (hnames : ∀ r ∈ registers, ∀ name, r.shownBy? given = some name →
      d.content.idOf? name = some r.id) :
    showRegisters d given registers = .ok (d.addDisplays (shownRows registers given)) := by
  induction registers generalizing d with
  | nil => exact congrArg Except.ok (Draft.addDisplays_nil d).symm
  | cons r rest ih =>
    rw [nodup_ids_cons_iff] at hids
    rw [List.forall_mem_cons] at hfresh hnames
    rw [showRegisters, List.foldlM_cons, shownRows, List.filterMap_cons]
    -- a register that nothing is to be shown for is passed over
    cases hr : r.shownBy? given with
    | none => exact ih hopen hids.2 hfresh.2 hnames.2
    | some name =>
      have hset := Draft.setDisplay_fresh hopen (hnames.1 name hr) hfresh.1
      have hfresh' : ∀ r' ∈ rest, ∀ e ∈
          (d.addDisplays [(r.id, Text.stripped name)]).content.displays, e.1 ≠ r'.id := by
        intro r' hr' e he
        rcases List.mem_append.mp he with he | he
        · exact hfresh.2 r' hr' e he
        · rw [List.mem_singleton.mp he]
          exact hids.1 r' hr'
      have hrest := ih (d := d.addDisplays [(r.id, Text.stripped name)]) hopen hids.2 hfresh'
        hnames.2
      rw [Draft.addDisplays_addDisplays] at hrest
      dsimp only
      rw [hset]
      exact hrest

/-- Showing registers keeps a lexicon sound. -/
theorem sound_of_showRegisters (hd : d.content.Sound) {registers : List Numbered}
    {given : List (Int × String)} (h : showRegisters d given registers = .ok d') :
    d'.content.Sound := by
  induction registers generalizing d with
  | nil =>
    cases h
    exact hd
  | cons r rest ih =>
    rw [showRegisters, List.foldlM_cons, Except.bind_eq_ok_iff] at h
    obtain ⟨d₁, h₁, h₂⟩ := h
    refine ih ?_ h₂
    split at h₁
    · exact hd.setDisplay h₁
    · cases h₁
      exact hd

/-- A register is shown by a name exactly if it is shown by its numbered name or the calling
convention has a name for it. -/
theorem Numbered.isSome_shownBy?_iff {r : Numbered} {given : List (Int × String)} :
    (r.shownBy? given).isSome = true ↔ (r.showsConvention = true → r.id ∈ given.map (·.1)) := by
  unfold Numbered.shownBy?
  cases r.showsConvention with
  | false => simp
  | true =>
    rw [if_pos rfl, Option.isSome_iff_ne_none, Ne, List.lookup_eq_none_iff_notMem,
      Decidable.not_not]
    exact ⟨fun h _ => h, fun h => h rfl⟩

/-- Of different registers exactly those have a display that are shown by a name. -/
theorem mem_shownRows_iff {registers : List Numbered} (hids : (registers.map (·.id)).Nodup)
    {given : List (Int × String)} {r : Numbered} (hr : r ∈ registers) :
    r.id ∈ (shownRows registers given).map (·.1) ↔ (r.shownBy? given).isSome = true := by
  simp only [shownRows, List.mem_map, List.mem_filterMap, Option.map_eq_some_iff]
  constructor
  · rintro ⟨_, ⟨r', hr', name, hname, rfl⟩, hid⟩
    rw [← List.inj_on_of_nodup_map hids hr' hr hid, hname]
    rfl
  · intro hsome
    obtain ⟨name, hname⟩ := Option.isSome_iff_exists.mp hsome
    exact ⟨_, ⟨r, hr, name, hname, rfl⟩, rfl⟩

/-! ### Completeness -/

namespace Lexicon

/-- No ID is reported exactly if all of them are shown by a name. -/
theorem firstUnnamed?_eq_none_iff {x : Lexicon} {count : Nat} {id : Int} :
    x.firstUnnamed? count id = none ↔ ∀ i ∈ idsFrom id count, x.hasDisplay i = true := by
  induction count generalizing id with
  | zero => simp [firstUnnamed?, idsFrom]
  | succ count ih =>
    rw [firstUnnamed?, idsFrom_succ, List.forall_mem_cons]
    cases x.hasDisplay id <;> simp [ih]

/-- The ID that is reported is the first one that is shown by no name. -/
theorem firstUnnamed?_eq_some_iff {x : Lexicon} {count : Nat} {id i : Int} :
    x.firstUnnamed? count id = some i ↔ i ∈ idsFrom id count ∧ x.hasDisplay i = false ∧
      ∀ j ∈ idsFrom id count, j < i → x.hasDisplay j = true := by
  induction count generalizing id with
  | zero => simp [firstUnnamed?, idsFrom]
  | succ count ih =>
    have hlater : ∀ j ∈ idsFrom (id + 1) count, id < j := by
      intro j hj
      have hj' := (mem_idsFrom_iff.mp hj).1
      omega
    rw [firstUnnamed?, idsFrom_succ, List.forall_mem_cons, List.mem_cons]
    cases hid : x.hasDisplay id with
    | true =>
      rw [if_pos rfl, ih]
      constructor
      · rintro ⟨hi, hgap, hbefore⟩
        exact ⟨.inr hi, hgap, fun _ => rfl, hbefore⟩
      · rintro ⟨rfl | hi, hgap, -, hbefore⟩
        · rw [hid] at hgap
          cases hgap
        · exact ⟨hi, hgap, hbefore⟩
    | false =>
      rw [if_neg Bool.false_ne_true, Option.some.injEq]
      constructor
      · rintro rfl
        refine ⟨.inl rfl, hid, fun hlt => absurd hlt (Int.lt_irrefl _), fun j hj hlt => ?_⟩
        exact absurd hlt (Int.not_lt.mpr (Int.le_of_lt (hlater j hj)))
      · rintro ⟨rfl | hi, -, hfirst, -⟩
        · rfl
        · cases hfirst (hlater i hi)

/-- A range is complete exactly if each of its IDs is shown by a name. -/
theorem Draft.requireDisplays_eq_ok_iff {range : IdRange} :
    d.requireDisplays range = .ok () ↔ ∀ id ∈ range, d.content.hasDisplay id = true := by
  simp only [IdRange.mem_iff_mem_idsFrom, ← firstUnnamed?_eq_none_iff, requireDisplays]
  cases d.content.firstUnnamed? range.size range.base <;> simp

/-- A range that is not complete is refused for one of its IDs. -/
theorem Draft.requireDisplays_error {range : IdRange}
    (hids : ∀ n : Int, range.base ≤ n → n ≤ range.base + range.size → P n)
    (hoffsets : ∀ n : Int, 0 ≤ n → n ≤ range.size → P n)
    (h : d.requireDisplays range = .error f) : f.FoundIn P := by
  unfold requireDisplays at h
  split at h
  · next id hid =>
    cases h
    have hmem := mem_idsFrom_iff.mp (firstUnnamed?_eq_some_iff.mp hid).1
    have hstop : (range.stop : Int) = range.base + range.size := Int.natCast_add _ _
    refine ⟨rfl, ?_⟩
    simp only [flaw, FlawCause.numbers, List.forall_mem_cons, hstop]
    exact ⟨hids _ (by omega) (by omega), hoffsets _ (by omega) (by omega),
      hids _ (Int.le_refl _) (by omega), hids _ (by omega) (Int.le_refl _), List.forall_mem_nil _⟩
  · cases h

end Lexicon

/-! ### The registers of a declaration -/

namespace Declaration

/-- The registers of all banks. -/
def registers (d : Declaration) : List Numbered := layOut d.registerBase d.banks

/-- The numbered names of all banks. -/
def numberedDraft (d : Declaration) : Draft :=
  (Draft.empty Miss.register Lexicon.registerFallback true (some d.name)).addEntries
    (bindings (Text.key true) d.registers)

/-- What is asked of banks and names: no negative numbers; numbered names with different keys; names
of the calling convention that can be laid over them; and one of these for each register that is to
be shown by one. -/
structure RegistersWellFormed (d : Declaration) : Prop where
  base_nonneg : 0 ≤ d.registerBase
  count_nonneg : ∀ b ∈ d.banks, 0 ≤ b.count
  keys_nodup : (d.registers.map fun r => Text.key true r.name).Nodup
  overlays : ∃ given, Overlays (bindings (Text.key true) d.registers) d.conventionNames given ∧
    ∀ r ∈ d.registers, r.showsConvention = true → r.id ∈ given.map (·.1)

variable {d : Declaration}

theorem map_id_registers (hcounts : ∀ b ∈ d.banks, 0 ≤ b.count) :
    d.registers.map (·.id) = idsFrom d.registerBase (registerCount d.banks) :=
  map_id_layOut d.registerBase hcounts

theorem nodup_ids_registers (hcounts : ∀ b ∈ d.banks, 0 ≤ b.count) :
    (d.registers.map (·.id)).Nodup := by
  rw [map_id_registers hcounts]
  exact nodup_idsFrom _ _

/-- The banks can be laid out exactly if there are no negative numbers and the keys of the numbered
names differ. -/
theorem layBanks_empty_eq_ok_iff {laid : Draft × List IdRange × List Numbered} :
    (layBanks (Draft.empty Miss.register Lexicon.registerFallback true (some d.name)) d.registerBase
        d.banks).outcome = .ok laid ↔
      (d.banks ≠ [] → 0 ≤ d.registerBase) ∧ (∀ b ∈ d.banks, 0 ≤ b.count) ∧
        (d.registers.map fun r => Text.key true r.name).Nodup ∧
        laid = (d.numberedDraft, bankRanges d.registerBase d.banks, d.registers) :=
  layBanks_eq_ok_iff (Draft.ready_empty _ _ _ _ _)

theorem sound_numberedDraft (hkeys : (d.registers.map fun r => Text.key true r.name).Nodup) :
    d.numberedDraft.content.Sound where
  key_ne_empty := by
    intro e he
    obtain ⟨r, hr, rfl⟩ := List.mem_map.mp he
    exact key_ne_empty_of_mem_layOut hr
  names_nodup := by
    have hnames : d.numberedDraft.content.names = d.registers.map fun r => Text.key true r.name :=
      names_addEntries_bindings (Draft.empty _ _ true _) _
    rw [hnames]
    exact hkeys
  ids_nodup := List.nodup_nil
  display_stripped := List.forall_mem_nil _
  idOf?_display := List.forall_mem_nil _

/-- After the names of the calling convention were laid over the numbered ones, every name stands
for a register, and the registers can be shown. -/
theorem overlayNames_spec (hcounts : ∀ b ∈ d.banks, 0 ≤ b.count)
    (hkeys : (d.registers.map fun r => Text.key true r.name).Nodup) {draft : Draft}
    {given : List (Int × String)}
    (h : overlayNames d.numberedDraft d.conventionNames = .ok (draft, given)) :
    draft.content.Sound ∧ draft.closedAs = none ∧ draft.content.displays = [] ∧
      (∀ e ∈ draft.content.entries, e.2 ∈ idsFrom d.registerBase (registerCount d.banks)) ∧
      showRegisters draft given d.registers =
        .ok (draft.addDisplays (shownRows d.registers given)) := by
  have hids : ∀ e ∈ d.numberedDraft.content.entries,
      e.2 ∈ idsFrom d.registerBase (registerCount d.banks) := by
    intro e he
    rw [← map_id_registers hcounts]
    exact mem_ids_of_mem_bindings he
  obtain ⟨hsound, ⟨rows, rfl, hrows⟩, hgiven⟩ :=
    overlayNames_grows h (sound_numberedDraft hkeys) hids
  refine ⟨hsound, rfl, rfl, List.forall_mem_append.mpr ⟨hids, hrows⟩, ?_⟩
  refine showRegisters_eq rfl (nodup_ids_registers hcounts) (fun _ _ => List.forall_mem_nil _) ?_
  intro r hr name hname
  -- the name is one that the calling convention went to the register with, or its numbered one
  unfold Numbered.shownBy? at hname
  split at hname
  · obtain ⟨l₁, l₂, hgiven', -⟩ := List.lookup_eq_some_iff.mp hname
    exact hgiven (r.id, name) (by simp [hgiven'])
  · cases hname
    exact hsound.idOf?_eq_some_iff.mpr (List.mem_append_left _ (List.mem_map_of_mem hr))

/-- With no negative numbers the range of the registers is made of their base and their number. -/
theorem registerRange_eq_ok_iff (hcounts : ∀ b ∈ d.banks, 0 ≤ b.count) {range : IdRange} :
    d.registerRange = .ok range ↔
      0 ≤ d.registerBase ∧ range = ⟨d.registerBase.toNat, registerCount d.banks⟩ := by
  rw [registerRange, registerTotal_eq hcounts, IdRange.make_eq_ok_iff]
  constructor
  · rintro ⟨hbase, hsize⟩
    refine ⟨by omega, ?_⟩
    rw [hbase, Int.ofNat_inj.mp hsize, Int.toNat_natCast]
  · rintro ⟨hbase, rfl⟩
    exact ⟨(Int.toNat_of_nonneg hbase).symm, rfl⟩

/-- With no negative numbers of registers only the base of their range can be wrong. -/
theorem registerRange_error (hcounts : ∀ b ∈ d.banks, 0 ≤ b.count) {c : BadRange}
    (h : d.registerRange = .error c) : d.registerBase < 0 ∧ c = .negativeBase d.registerBase := by
  rw [registerRange, registerTotal_eq hcounts] at h
  rcases IdRange.make_eq_error_iff.mp h with hbase | ⟨-, hsize, -⟩
  · exact hbase
  · omega

/-- The range of the registers is complete exactly if the calling convention has a name for each
register that is to be shown by one. -/
theorem requireDisplays_shownRows_iff (hbase : 0 ≤ d.registerBase)
    (hcounts : ∀ b ∈ d.banks, 0 ≤ b.count) {draft : Draft} {given : List (Int × String)}
    (hdraft : draft.content.displays = []) :
    (draft.addDisplays (shownRows d.registers given)).requireDisplays
        ⟨d.registerBase.toNat, registerCount d.banks⟩ = .ok () ↔
      ∀ r ∈ d.registers, r.showsConvention = true → r.id ∈ given.map (·.1) := by
  have hids := nodup_ids_registers hcounts
  simp only [Draft.requireDisplays_eq_ok_iff, IdRange.mem_iff_mem_idsFrom,
    Int.toNat_of_nonneg hbase, ← map_id_registers hcounts, Lexicon.hasDisplay_iff,
    Draft.displays_addDisplays, hdraft, List.nil_append, List.forall_mem_map]
  constructor
  · intro h r hr
    exact Numbered.isSome_shownBy?_iff.mp ((mem_shownRows_iff hids hr).mp (h r hr))
  · intro h r hr
    exact (mem_shownRows_iff hids hr).mpr (Numbered.isSome_shownBy?_iff.mpr (h r hr))

/-- The lexicon of the registers is what the numbered names and those of the calling convention make
it, and what is asked of them is asked for in these steps and no others. -/
theorem buildRegisters_eq_ok_iff {x : Lexicon} {ranges : List IdRange} :
    d.buildRegisters.outcome = .ok (x, ranges) ↔
      0 ≤ d.registerBase ∧ (∀ b ∈ d.banks, 0 ≤ b.count) ∧
      (d.registers.map fun r => Text.key true r.name).Nodup ∧
      ∃ draft given, overlayNames d.numberedDraft d.conventionNames = .ok (draft, given) ∧
        (∀ r ∈ d.registers, r.showsConvention = true → r.id ∈ given.map (·.1)) ∧
        x = (draft.addDisplays (shownRows d.registers given)).content ∧
        ranges = bankRanges d.registerBase d.banks := by
  unfold buildRegisters
  simp only [Traced.outcome_bind, Traced.outcome_ranged, Traced.outcome_flawed,
    Traced.outcome_pure, Traced.outcome_note, Draft.validate, Except.bind_eq_ok_iff,
    Except.mapError_eq_ok_iff, layBanks_empty_eq_ok_iff]
  constructor
  · rintro ⟨_, ⟨-, hcounts, hkeys, rfl⟩, ⟨draft, given⟩, hover, shown, hshow, range, hrange, _,
      ⟨_, hrequire, -⟩, hlast⟩
    obtain ⟨-, hopen, hdisplays, -, hshow'⟩ := overlayNames_spec hcounts hkeys hover
    rw [hshow', Except.ok.injEq] at hshow
    obtain ⟨hbase, rfl⟩ := (registerRange_eq_ok_iff hcounts).mp hrange
    rw [← hshow, requireDisplays_shownRows_iff hbase hcounts hdisplays] at hrequire
    refine ⟨hbase, hcounts, hkeys, draft, given, hover, hrequire, ?_⟩
    rw [Except.ok.injEq, Prod.mk.injEq, ← hshow] at hlast
    refine ⟨hlast.1.symm.trans ?_, hlast.2.symm⟩
    simp [Draft.closed, Draft.addDisplays, hopen]
  · rintro ⟨hbase, hcounts, hkeys, draft, given, hover, hconv, rfl, rfl⟩
    obtain ⟨-, hopen, hdisplays, -, hshow⟩ := overlayNames_spec hcounts hkeys hover
    have hrequire := (requireDisplays_shownRows_iff hbase hcounts hdisplays).mpr hconv
    refine ⟨_, ⟨fun _ => hbase, hcounts, hkeys, rfl⟩, _, hover, _, hshow, _,
      (registerRange_eq_ok_iff hcounts).mpr ⟨hbase, rfl⟩, (), ⟨(), hrequire, trivial⟩, ?_⟩
    simp [Draft.closed, Draft.addDisplays, hopen]

/-- **The lexicon of the registers is built exactly if they are well-formed.** -/
theorem exists_buildRegisters_iff :
    (∃ built, d.buildRegisters.outcome = .ok built) ↔ d.RegistersWellFormed := by
  constructor
  · rintro ⟨⟨x, ranges⟩, h⟩
    obtain ⟨hbase, hcounts, hkeys, draft, given, hover, hconv, -, -⟩ :=
      buildRegisters_eq_ok_iff.mp h
    refine ⟨hbase, hcounts, hkeys, given, ?_, hconv⟩
    exact (exists_overlayNames_iff (sound_numberedDraft hkeys) rfl rfl fun _ => Iff.rfl).mp
      ⟨draft, hover⟩
  · intro h
    obtain ⟨given, hover, hconv⟩ := h.overlays
    obtain ⟨draft, hover⟩ := (exists_overlayNames_iff (sound_numberedDraft h.keys_nodup) rfl rfl
      fun _ => Iff.rfl).mpr hover
    exact ⟨_, buildRegisters_eq_ok_iff.mpr ⟨h.base_nonneg, h.count_nonneg, h.keys_nodup, draft,
      given, hover, hconv, rfl, rfl⟩⟩

/-- What a finished lexicon of registers is like: it is sound, its names stand for registers, and
every register is shown by one of them. -/
theorem buildRegisters_spec {x : Lexicon} {ranges : List IdRange}
    (h : d.buildRegisters.outcome = .ok (x, ranges)) :
    x.Sound ∧ (∀ e ∈ x.entries, e.2 ∈ idsFrom d.registerBase (registerCount d.banks)) ∧
      ∀ id ∈ idsFrom d.registerBase (registerCount d.banks), x.hasDisplay id = true := by
  obtain ⟨hbase, hcounts, hkeys, draft, given, hover, hconv, rfl, -⟩ :=
    buildRegisters_eq_ok_iff.mp h
  obtain ⟨hsound, -, hdisplays, hids, hshow⟩ := overlayNames_spec hcounts hkeys hover
  refine ⟨sound_of_showRegisters hsound hshow, hids, ?_⟩
  have hrequire := (requireDisplays_shownRows_iff hbase hcounts hdisplays).mpr hconv
  simpa only [Draft.requireDisplays_eq_ok_iff, IdRange.mem_iff_mem_idsFrom,
    Int.toNat_of_nonneg hbase] using hrequire

/-- Registers are refused for a name, for a register without one to be shown by, for a negative base
or for a negative number of registers. -/
theorem buildRegisters_error
    (hids : ∀ n : Int, d.registerBase ≤ n → n ≤ d.registerBase + registerCount d.banks → P n)
    (hoffsets : ∀ n : Int, 0 ≤ n → n ≤ registerCount d.banks → P n)
    (h : d.buildRegisters.outcome = .error e) :
    (∃ f : Flaw, f.FoundIn P ∧ e = f.fault) ∨
      (d.registerBase < 0 ∧ e = .badRange (.negativeBase d.registerBase)) ∨
      ∃ b ∈ d.banks, b.count < 0 ∧ e = .badRange (.negativeSize b.count) := by
  unfold buildRegisters at h
  simp only [Traced.outcome_bind, Traced.outcome_ranged, Traced.outcome_flawed,
    Traced.outcome_pure, Traced.outcome_note, Draft.validate] at h
  rcases Except.bind_eq_error_iff.mp h with h | ⟨laid, hlaid, h⟩
  · refine layBanks_error (Draft.ready_empty _ _ _ _ _) (List.forall_mem_nil _) ?_ h
    intro n hle hlt
    exact hids n hle (by omega)
  obtain ⟨-, hcounts, hkeys, rfl⟩ := layBanks_empty_eq_ok_iff.mp hlaid
  have hentries : ∀ e ∈ d.numberedDraft.content.entries, P e.2 := by
    intro e he
    have hid := mem_ids_of_mem_bindings he
    rw [map_id_registers hcounts, mem_idsFrom_iff] at hid
    exact hids _ hid.1 (by omega)
  rcases Except.bind_eq_error_iff.mp h with h | ⟨⟨draft, given⟩, hover, h⟩
  · obtain ⟨f, hf, rfl⟩ := Except.mapError_eq_error_iff.mp h
    exact Or.inl ⟨f, overlayNames_error rfl hentries hf, rfl⟩
  obtain ⟨-, -, -, -, hshow⟩ :=
    overlayNames_spec hcounts hkeys (Except.mapError_eq_ok_iff.mp hover)
  -- here nothing can be refused
  rw [hshow] at h
  change (d.registerRange.mapError Fault.badRange >>= _) = _ at h
  rcases Except.bind_eq_error_iff.mp h with h | ⟨range, hrange, h⟩
  · obtain ⟨c, hc, rfl⟩ := Except.mapError_eq_error_iff.mp h
    obtain ⟨hbase, rfl⟩ := registerRange_error hcounts hc
    exact Or.inr (Or.inl ⟨hbase, rfl⟩)
  obtain ⟨hbase, rfl⟩ := (registerRange_eq_ok_iff hcounts).mp (Except.mapError_eq_ok_iff.mp hrange)
  rcases Except.bind_eq_error_iff.mp h with h | ⟨_, -, h⟩
  · rcases Except.bind_eq_error_iff.mp h with h | ⟨_, -, h⟩
    · obtain ⟨f, hf, rfl⟩ := Except.mapError_eq_error_iff.mp h
      refine Or.inl ⟨f, Draft.requireDisplays_error ?_ hoffsets hf, rfl⟩
      rw [Int.toNat_of_nonneg hbase]
      exact hids
    · cases h
  · cases h

end Declaration

end IsaNames
