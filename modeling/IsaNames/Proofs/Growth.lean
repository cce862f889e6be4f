import IsaNames.Proofs.Startup

/-!
# Declarations that grow

Names, IDs and displays are used outside of a table, so they have to stay what they are when a
declaration is added to.  New banks come after the old ones, new names of the calling convention
after the old ones, and new mnemonics after the old ones, generic or not; then whatever the earlier
tables tell is told by the later ones too.  A later bank or name that would take something away from
an earlier one is refused, so it is enough that both can be built.

## Main definitions

* `Declaration.GrowsTo d d'` — `d'` is `d` with more at the ends of its lists.
* `Lexicon.KeptIn x y` — what the lexicon `x` tells, `y` tells too.
* `Lexicon.RowsIn x y` — the rows of `x` are rows of `y`.
* `Architecture.KeptIn a a'` — what the architecture `a` tells, `a'` tells too.

## Main results

* `Lexicon.RowsIn.keptIn` — a sound lexicon tells all that its rows say.
* `overlayNames_rowsIn` — **old names go where they went, whatever else is there.**
* `Provider.architecture_kept` — **what is built from a declaration is kept by whatever it grows to.**
-/

namespace IsaNames

open Lexicon (Draft)

/-! ### What longer lists begin with -/

theorem prefix_countFrom (first : Int) {names names' : List String} (h : names <+: names') :
    countFrom first names <+: countFrom first names' := by
  induction names generalizing first names' with
  | nil => exact List.nil_prefix
  | cons name rest ih =>
    obtain ⟨more, rfl⟩ := h
    exact List.cons_prefix_cons.mpr ⟨rfl, ih _ (List.prefix_append rest more)⟩

/-- More banks at the end do not move the registers of the others. -/
theorem prefix_layOut (first : Int) {banks banks' : List Bank} (h : banks <+: banks') :
    layOut first banks <+: layOut first banks' := by
  induction banks generalizing first banks' with
  | nil => exact List.nil_prefix
  | cons bank rest ih =>
    obtain ⟨more, rfl⟩ := h
    exact (List.prefix_append_right_inj _).mpr (ih _ (List.prefix_append rest more))

theorem prefix_bankRanges (first : Int) {banks banks' : List Bank} (h : banks <+: banks') :
    bankRanges first banks <+: bankRanges first banks' := by
  induction banks generalizing first banks' with
  | nil => exact List.nil_prefix
  | cons bank rest ih =>
    obtain ⟨more, rfl⟩ := h
    exact List.cons_prefix_cons.mpr ⟨rfl, ih _ (List.prefix_append rest more)⟩

/-! ### Lexicons with more rows -/

namespace Lexicon

/-- What a lexicon tells of a name that it knows or of an ID that it shows by a name, another one
tells too. -/
structure KeptIn (x y : Lexicon) : Prop where
  idOf : ∀ name id, x.idOf name = .ok id → y.idOf name = .ok id
  display : ∀ id, x.hasDisplay id = true → y.hasDisplay id = true ∧ y.display id = x.display id

/-- The rows of a lexicon are rows of another one with the same keys. -/
structure RowsIn (x y : Lexicon) : Prop where
  key_eq : y.key = x.key
  entries : x.entries ⊆ y.entries
  displays : x.displays ⊆ y.displays

namespace RowsIn

variable {x y : Lexicon} {d e d' e' : Draft}

theorem empty (kind fallback : String) (foldCase : Bool) (owner owner' : Option String) :
    (Draft.empty kind fallback foldCase owner).content.RowsIn
      (Draft.empty kind fallback foldCase owner').content where
  key_eq := rfl
  entries := List.nil_subset _
  displays := List.nil_subset _

theorem idOf? (h : x.RowsIn y) (hy : y.Sound) {name : String} {id : Int}
    (hid : x.idOf? name = some id) : y.idOf? name = some id := by
  rw [hy.idOf?_eq_some_iff, h.key_eq]
  exact h.entries (mem_entries_of_idOf? hid)

/-- A sound lexicon tells all that the rows of a lexicon say. -/
theorem keptIn (h : x.RowsIn y) (hx : x.Sound) (hy : y.Sound) : x.KeptIn y where
  idOf := by
    intro name id hid
    exact idOf_eq_ok_iff.mpr (h.idOf? hy (idOf_eq_ok_iff.mp hid))
  display := by
    intro id hid
    obtain ⟨text, htext⟩ := Option.isSome_iff_exists.mp hid
    have htext' : y.display? id = some text :=
      hy.display?_eq_some_iff.mpr (h.displays (hx.display?_eq_some_iff.mp htext))
    rw [hasDisplay, display, display, htext, htext']
    exact ⟨rfl, rfl⟩

theorem addEntries (h : d.content.RowsIn e.content) {rows rows' : List (String × Int)}
    (hrows : rows ⊆ rows') : (d.addEntries rows).content.RowsIn (e.addEntries rows').content where
  key_eq := h.key_eq
  entries := List.append_subset.mpr
    ⟨List.subset_append_of_subset_left _ h.entries, List.subset_append_of_subset_right _ hrows⟩
  displays := h.displays

theorem addDisplays (h : d.content.RowsIn e.content) {rows rows' : List (Int × String)}
    (hrows : rows ⊆ rows') : (d.addDisplays rows).content.RowsIn (e.addDisplays rows').content where
  key_eq := h.key_eq
  entries := h.entries
  displays := List.append_subset.mpr
    ⟨List.subset_append_of_subset_left _ h.displays, List.subset_append_of_subset_right _ hrows⟩

/-- Names that are declared from the same ID on get the same IDs. -/
theorem declared (h : d.content.RowsIn e.content) (first : Int) {names names' : List String}
    (hnames : names <+: names') :
    (d.declared first names).content.RowsIn (e.declared first names').content := by
  have hrows := (prefix_countFrom first hnames).subset
  have hkeyed : d.content.keyed (countFrom first names) ⊆
      e.content.keyed (countFrom first names') := by
    rw [keyed, keyed, h.key_eq]
    exact List.map_subset _ hrows
  exact (h.addEntries hkeyed).addDisplays (List.map_subset _ hrows)

theorem assign (h : d.content.RowsIn e.content) {name : String} {id : Int}
    (hd : d.assign name id = .ok d') (he : e.assign name id = .ok e') :
    d'.content.RowsIn e'.content where
  key_eq := by
    rw [(Draft.assign_keeps he).2, (Draft.assign_keeps hd).2, h.key_eq]
  entries := by
    intro row hrow
    rw [Draft.mem_entries_assign_iff he, h.key_eq]
    exact ((Draft.mem_entries_assign_iff hd).mp hrow).imp_right fun hmem => h.entries hmem
  displays := by
    obtain ⟨rows, rfl, -⟩ := Draft.assign_grows (P := fun _ => True) trivial hd
    obtain ⟨rows', rfl, -⟩ := Draft.assign_grows (P := fun _ => True) trivial he
    exact h.displays

/-- An alias goes where it goes with fewer rows, because what it is for stands for the same ID. -/
theorem link (h : d.content.RowsIn e.content) (hsound : e.content.Sound) {name target : String}
    {id id' : Int} (hd : d.link name target = .ok (d', id)) (he : e.link name target = .ok (e', id')) :
    id' = id ∧ d'.content.RowsIn e'.content := by
  obtain ⟨htarget, hd⟩ := Draft.link_eq_ok_iff.mp hd
  obtain ⟨htarget', he⟩ := Draft.link_eq_ok_iff.mp he
  rw [h.idOf? hsound htarget, Option.some.injEq] at htarget'
  cases htarget'
  exact ⟨rfl, h.assign hd he⟩

end RowsIn

end Lexicon

/-! ### Registers -/

/-- **Old names go where they went**, although there are more rows by now and more names follow. -/
theorem overlayNames_rowsIn {d e d' e' : Draft} {names names' : List (String × String)}
    {given given' : List (Int × String)} (h : d.content.RowsIn e.content)
    (hsound : e.content.Sound) (hnames : names <+: names')
    (hd : overlayNames d names = .ok (d', given)) (he : overlayNames e names' = .ok (e', given')) :
    d'.content.RowsIn e'.content ∧ given <+: given' := by
  induction names generalizing d e names' given given' with
  | nil =>
    cases hd
    obtain ⟨-, ⟨rows, rfl, -⟩, -⟩ :=
      overlayNames_grows (P := fun _ => True) he hsound fun _ _ => trivial
    have hrows := h.addEntries (List.nil_subset rows)
    rw [Draft.addEntries_nil] at hrows
    exact ⟨hrows, List.nil_prefix⟩
  | cons row rest ih =>
    obtain ⟨name, target⟩ := row
    obtain ⟨more, rfl⟩ := hnames
    obtain ⟨⟨d₁, id⟩, hlink, hd⟩ := Except.bind_eq_ok_iff.mp hd
    obtain ⟨⟨d₂, others⟩, hrest, hd⟩ := Except.bind_eq_ok_iff.mp hd
    obtain ⟨⟨e₁, id'⟩, hlink', he⟩ := Except.bind_eq_ok_iff.mp he
    obtain ⟨⟨e₂, others'⟩, hrest', he⟩ := Except.bind_eq_ok_iff.mp he
    cases hd
    cases he
    obtain ⟨rfl, hrows⟩ := h.link hsound hlink hlink'
    have hsound₁ := hsound.assign (Draft.link_eq_ok_iff.mp hlink').2
    obtain ⟨hrows, hgiven⟩ := ih hrows hsound₁ (List.prefix_append rest more) hrest hrest'
    exact ⟨hrows, List.cons_prefix_cons.mpr ⟨rfl, hgiven⟩⟩

/-- What a register is shown by stays, because the first name that was given to it does. -/
theorem Numbered.shownBy?_of_prefix_given {r : Numbered} {given given' : List (Int × String)}
    (h : given <+: given') {name : String} (hname : r.shownBy? given = some name) :
    r.shownBy? given' = some name := by
  unfold Numbered.shownBy? at hname ⊢
  split
  · next hr =>
    rw [if_pos hr] at hname
    exact h.lookup_eq_some hname
  · next hr =>
    rw [if_neg hr] at hname
    exact hname

theorem shownRows_subset {registers registers' : List Numbered} {given given' : List (Int × String)}
    (hregisters : registers ⊆ registers') (hgiven : given <+: given') :
    shownRows registers given ⊆ shownRows registers' given' := by
  intro row hrow
  simp only [shownRows, List.mem_filterMap, Option.map_eq_some_iff] at hrow ⊢
  obtain ⟨r, hr, name, hname, rfl⟩ := hrow
  exact ⟨r, hregisters hr, name, Numbered.shownBy?_of_prefix_given hgiven hname, rfl⟩

/-! ### Declarations -/

namespace Declaration

/-- A declaration grows to another one if more is added at the ends of its lists and the rest stays
as it is. -/
structure GrowsTo (d d' : Declaration) : Prop where
  name_eq : d'.name = d.name
  registerBase_eq : d'.registerBase = d.registerBase
  banks : d.banks <+: d'.banks
  conventionNames : d.conventionNames <+: d'.conventionNames
  opcodeBase_eq : d'.opcodeBase = d.opcodeBase
  mnemonics : d.mnemonics <+: d'.mnemonics

variable {d d' : Declaration}

theorem GrowsTo.registers (h : d.GrowsTo d') : d.registers <+: d'.registers := by
  rw [Declaration.registers, Declaration.registers, h.registerBase_eq]
  exact prefix_layOut _ h.banks

theorem GrowsTo.numberedDraft (h : d.GrowsTo d') :
    d.numberedDraft.content.RowsIn d'.numberedDraft.content :=
  (Lexicon.RowsIn.empty _ _ _ _ _).addEntries (List.map_subset _ h.registers.subset)

/-- The register lexicon of a declaration is kept by the one it grows to. -/
theorem GrowsTo.keptIn_registers (h : d.GrowsTo d') {x x' : Lexicon} {ranges ranges' : List IdRange}
    (hx : d.buildRegisters.outcome = .ok (x, ranges))
    (hx' : d'.buildRegisters.outcome = .ok (x', ranges')) : x.KeptIn x' := by
  have hsound := (buildRegisters_spec hx).1
  have hsound' := (buildRegisters_spec hx').1
  obtain ⟨-, -, -, draft, given, hover, -, rfl, -⟩ := buildRegisters_eq_ok_iff.mp hx
  obtain ⟨-, -, hkeys', draft', given', hover', -, rfl, -⟩ := buildRegisters_eq_ok_iff.mp hx'
  obtain ⟨hrows, hgiven⟩ := overlayNames_rowsIn h.numberedDraft (sound_numberedDraft hkeys')
    h.conventionNames hover hover'
  exact (hrows.addDisplays (shownRows_subset h.registers.subset hgiven)).keptIn hsound hsound'

theorem GrowsTo.opcodeDraft (h : d.GrowsTo d') {generic generic' : List String}
    (hgeneric : generic <+: generic') :
    (d.opcodeDraft generic).content.RowsIn (d'.opcodeDraft generic').content := by
  have hgeneric' : (genericDraft d.name generic).content.RowsIn
      (genericDraft d'.name generic').content :=
    (Lexicon.RowsIn.empty _ _ _ _ _).declared 0 hgeneric
  rw [Declaration.opcodeDraft, Declaration.opcodeDraft, h.opcodeBase_eq]
  exact hgeneric'.declared d.opcodeBase h.mnemonics

/-- The lexicon of the mnemonics of a declaration is kept by the one it grows to. -/
theorem GrowsTo.keptIn_opcodes (h : d.GrowsTo d') {generic generic' : List String}
    (hgeneric : generic <+: generic') (hwf : d.OpcodesWellFormed generic)
    (hwf' : d'.OpcodesWellFormed generic') :
    (d.opcodeDraft generic).content.KeptIn (d'.opcodeDraft generic').content :=
  (h.opcodeDraft hgeneric).keptIn hwf.spec.1 hwf'.spec.1

end Declaration

/-! ### Architectures -/

namespace Architecture

/-- What an architecture tells of names and of its IDs, another one tells too. -/
structure KeptIn (a a' : Architecture) : Prop where
  registers : a.registers.KeptIn a'.registers
  opcodes : a.opcodes.KeptIn a'.opcodes
  indexOf : ∀ id : Int, id ∈ a.registerRange → ∃ n, a.indexOf id = .ok n ∧ a'.indexOf id = .ok n

/-- The number that a register has in its bank does not depend on the banks after it. -/
theorem indexOf_of_prefix_banks {a a' : Architecture} (h : a.banks <+: a'.banks) {id : Int}
    (hid : ∃ r ∈ a.banks, id ∈ r) : ∃ n, a.indexOf id = .ok n ∧ a'.indexOf id = .ok n := by
  obtain ⟨bank, hbank⟩ : ∃ bank, a.banks.find? (fun r => id ∈ r) = some bank := by
    rw [← Option.isSome_iff_exists, List.find?_isSome]
    simpa using hid
  have hmem : id ∈ bank := by simpa using List.find?_some hbank
  have hoffset : bank.offset id = .ok (id - bank.base) := if_pos hmem
  refine ⟨id - bank.base, ?_, ?_⟩
  · rw [indexOf, hbank]
    exact hoffset
  · rw [indexOf, h.find?_eq_some hbank]
    exact hoffset

end Architecture

/-- What a declaration is built into is kept by what it grows to. -/
theorem Declaration.GrowsTo.keptIn_build {d d' : Declaration} (h : d.GrowsTo d')
    {generic generic' : List String} (hgeneric : generic <+: generic') {a a' : Architecture}
    (ha : (d.build generic).outcome = .ok a) (ha' : (d'.build generic').outcome = .ok a') :
    a.KeptIn a' := by
  obtain ⟨x, ranges, hx, hwf, rfl⟩ := build_eq_ok_iff.mp ha
  obtain ⟨x', ranges', hx', hwf', rfl⟩ := build_eq_ok_iff.mp ha'
  refine ⟨h.keptIn_registers hx hx', h.keptIn_opcodes hgeneric hwf hwf', fun id hid => ?_⟩
  obtain ⟨hbase, hcounts, -, -, -, -, -, -, rfl⟩ := buildRegisters_eq_ok_iff.mp hx
  obtain ⟨-, -, -, -, -, -, -, -, rfl⟩ := buildRegisters_eq_ok_iff.mp hx'
  have hcovered := (tiles_bankRanges hbase hcounts).exists_mem_iff.mpr hid
  refine Architecture.indexOf_of_prefix_banks ?_ hcovered
  rw [h.registerBase_eq]
  exact prefix_bankRanges _ h.banks

namespace Provider

/-- **What is built from a declaration is kept by whatever it grows to**: names stand for the same
IDs, IDs are shown by the same names, and registers have the same numbers in their banks. -/
theorem architecture_kept {d d' : Declaration} (hgrows : d.GrowsTo d')
    {generic generic' : List String} (hgeneric : generic <+: generic') {a a' : Architecture}
    (h : (build generic { declaration := d }).2.outcome = .ok a)
    (h' : (build generic' { declaration := d' }).2.outcome = .ok a') : a.KeptIn a' :=
  hgrows.keptIn_build hgeneric (build_of_fresh h) (build_of_fresh h')

/-- All lists grow at once: a bank that is shown by the calling convention, a name for its register
and one more for an old register, and mnemonics of both kinds. -/
theorem architecture_kept_of_all_lists :
    ∃ a a', (build ["nop"] { declaration :=
        ⟨"x", 32, [⟨"r", 2, false⟩, ⟨"a", 1, true⟩], [("zero", "A0")], 3, ["add"]⟩ }).2.outcome =
          .ok a ∧
      (build ["nop", "call"] { declaration :=
        ⟨"x", 32, [⟨"r", 2, false⟩, ⟨"a", 1, true⟩, ⟨"f", 1, true⟩],
          [("zero", "A0"), ("null", "ZERO"), ("ft", "f0")], 3, ["add", "sub"]⟩ }).2.outcome =
          .ok a' ∧
      a.KeptIn a' := by
  obtain ⟨a, ha⟩ : ∃ a, (build ["nop"] { declaration :=
      ⟨"x", 32, [⟨"r", 2, false⟩, ⟨"a", 1, true⟩], [("zero", "A0")], 3, ["add"]⟩ }).2.outcome =
        .ok a := ⟨_, rfl⟩
  obtain ⟨a', ha'⟩ : ∃ a', (build ["nop", "call"] { declaration :=
      ⟨"x", 32, [⟨"r", 2, false⟩, ⟨"a", 1, true⟩, ⟨"f", 1, true⟩],
        [("zero", "A0"), ("null", "ZERO"), ("ft", "f0")], 3, ["add", "sub"]⟩ }).2.outcome =
        .ok a' := ⟨_, rfl⟩
  refine ⟨a, a', ha, ha', architecture_kept ?_ ⟨["call"], rfl⟩ ha ha'⟩
  exact ⟨rfl, rfl, ⟨[⟨"f", 1, true⟩], rfl⟩, ⟨[("null", "ZERO"), ("ft", "f0")], rfl⟩, rfl,
    ⟨["sub"], rfl⟩⟩

end Provider

end IsaNames
