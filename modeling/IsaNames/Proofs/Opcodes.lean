import IsaNames.Proofs.Layout
import IsaNames.Proofs.Lexicon

/-!
# Building the lexicon of the mnemonics

Mnemonics are declared with consecutive opcodes, and each opcode is shown by its mnemonic.  A
declaration is refused only for its name: the opcode is always a fresh one, so that there is nothing
else it could be shown by.

## Main definitions

* `Draft.declared` — the draft after names were declared for consecutive IDs.
* `Declaration.OpcodesWellFormed` — what is asked of the mnemonics.

## Main results

* `Draft.declareFrom_eq_ok_iff`, `Draft.declareFrom_error` — when names can be declared, and what is
  wrong otherwise.
* `Declaration.buildOpcodes_eq_ok_iff` — **the lexicon of the mnemonics is built exactly from those
  that are well-formed.**
-/

namespace IsaNames

namespace Lexicon

/-- Names under their keys, with their IDs. -/
def keyed (x : Lexicon) (rows : List (String × Int)) : List (String × Int) :=
  rows.map fun row => (x.key row.1, row.2)

/-- The displays of IDs by the names that they are given. -/
def shown (rows : List (String × Int)) : List (Int × String) :=
  rows.map fun row => (row.2, Text.stripped row.1)

@[simp] theorem map_fst_keyed (x : Lexicon) (rows : List (String × Int)) :
    (x.keyed rows).map (·.1) = rows.map fun row => x.key row.1 := by
  simp [keyed]

@[simp] theorem map_fst_shown (rows : List (String × Int)) :
    (shown rows).map (·.1) = rows.map (·.2) := by
  simp [shown]

namespace Draft

/-! ### Declaring names for consecutive IDs -/

/-- The draft after names were declared for consecutive IDs from `first` on. -/
def declared (d : Draft) (first : Int) (names : List String) : Draft :=
  (d.addEntries (d.content.keyed (countFrom first names))).addDisplays
    (shown (countFrom first names))

section Declared

variable (d : Draft) (first : Int) (names : List String)

@[simp] theorem declared_nil : d.declared first [] = d := by
  simp [declared, countFrom, keyed, shown]

@[simp] theorem key_declared : (d.declared first names).content.key = d.content.key := rfl

@[simp] theorem names_declared :
    (d.declared first names).content.names = d.content.names ++ names.map d.content.key := by
  rw [declared, names_addDisplays, names_addEntries, map_fst_keyed, map_name_countFrom]

variable {d first names}

/-- An entry is an old one, or it is for one of the consecutive IDs. -/
theorem mem_entries_declared {e : String × Int}
    (h : e ∈ (d.declared first names).content.entries) :
    e ∈ d.content.entries ∨ e.2 ∈ idsFrom first names.length := by
  rcases List.mem_append.mp h with h | h
  · exact Or.inl h
  · obtain ⟨row, hrow, rfl⟩ := List.mem_map.mp h
    have hid : row.2 ∈ idsFrom first names.length := mem_idsFrom_of_mem_countFrom hrow
    exact Or.inr hid

/-- So is a display. -/
theorem mem_displays_declared {e : Int × String}
    (h : e ∈ (d.declared first names).content.displays) :
    e ∈ d.content.displays ∨ e.1 ∈ idsFrom first names.length := by
  rcases List.mem_append.mp h with h | h
  · exact Or.inl h
  · obtain ⟨row, hrow, rfl⟩ := List.mem_map.mp h
    have hid : row.2 ∈ idsFrom first names.length := mem_idsFrom_of_mem_countFrom hrow
    exact Or.inr hid

variable (d first)

/-- The IDs that are shown after names were declared. -/
theorem map_fst_displays_declared :
    (d.declared first names).content.displays.map (·.1) =
      d.content.displays.map (·.1) ++ idsFrom first names.length := by
  rw [declared, displays_addDisplays, displays_addEntries, List.map_append, map_fst_shown,
    map_snd_countFrom]

/-- Declaring a name and then the others declares them all. -/
theorem declared_cons (name : String) (rest : List String) :
    (d.declared first [name]).declared (first + 1) rest = d.declared first (name :: rest) := by
  simp [declared, countFrom, keyed, shown, addEntries, addDisplays, key]

end Declared

/-- After names were declared the draft is ready for the next ID, if their keys differ. -/
theorem Ready.declared {d : Draft} {first : Int} (hd : d.Ready first) (names : List String)
    (hnames : (d.content.names ++ names.map d.content.key).Nodup) :
    (d.declared first names).Ready (first + names.length) where
  isOpen := hd.isOpen
  names_nodup := by
    rw [names_declared]
    exact hnames
  entry_lt := by
    intro e he
    rcases mem_entries_declared he with he | he
    · have := hd.entry_lt e he
      omega
    · exact (mem_idsFrom_iff.mp he).2
  display_lt := by
    intro e he
    rcases mem_displays_declared he with he | he
    · have := hd.display_lt e he
      omega
    · exact (mem_idsFrom_iff.mp he).2

/-- A name can be declared for the next ID if it is not blank and not taken. -/
theorem Ready.declare_eq_ok_iff {d d' : Draft} {id : Int} (hd : d.Ready id) {name : String} :
    d.declare name id = .ok d' ↔ d.content.key name ≠ "" ∧
      (d.content.names ++ [d.content.key name]).Nodup ∧ d' = d.declared id [name] := by
  have hnodup : (d.content.names ++ [d.content.key name]).Nodup ↔
      d.content.key name ∉ d.content.names := by
    rw [← List.concat_eq_append, List.nodup_concat]
    exact and_iff_left hd.names_nodup
  have hentries : ∀ e ∈ d.content.entries, e.2 ≠ id := fun e he => Int.ne_of_lt (hd.entry_lt e he)
  have hdisplays : ∀ e ∈ d.content.displays, e.1 ≠ id :=
    fun e he => Int.ne_of_lt (hd.display_lt e he)
  rw [hnodup, declare_eq_of_fresh hdisplays]
  cases h : d.assign name id with
  | error f =>
    simp only [Except.map, reduceCtorEq, false_iff]
    rintro ⟨hkey, hnew, -⟩
    rw [(assign_fresh_eq_ok_iff hd.isOpen hentries).mpr ⟨hkey, hnew, rfl⟩] at h
    cases h
  | ok d₁ =>
    obtain ⟨hkey, hnew, rfl⟩ := (assign_fresh_eq_ok_iff hd.isOpen hentries).mp h
    simp only [Except.map, Except.ok.injEq, hkey, hnew, ne_eq, not_false_eq_true, true_and]
    exact eq_comm

/-- A declaration for the next ID is refused for its name. -/
theorem Ready.declare_error {P : Int → Prop} {d : Draft} {id : Int} (hd : d.Ready id)
    (hP : ∀ e ∈ d.content.entries, P e.2) (hid : P id) {name : String} {f : Flaw}
    (h : d.declare name id = .error f) : f.FoundIn P := by
  have hdisplays : ∀ e ∈ d.content.displays, e.1 ≠ id :=
    fun e he => Int.ne_of_lt (hd.display_lt e he)
  rw [declare_eq_of_fresh hdisplays] at h
  cases hassign : d.assign name id with
  | error f' =>
    rw [hassign] at h
    cases h
    exact assign_error hd.isOpen hP hid hassign
  | ok d' =>
    rw [hassign] at h
    cases h

/-- Names can be declared for consecutive fresh IDs exactly if none is blank and their keys differ
from each other and from those that are there. -/
theorem Ready.declareFrom_eq_ok_iff {d d' : Draft} {first : Int} (hd : d.Ready first)
    {names : List String} :
    d.declareFrom first names = .ok d' ↔ (∀ name ∈ names, d.content.key name ≠ "") ∧
      (d.content.names ++ names.map d.content.key).Nodup ∧ d' = d.declared first names := by
  induction names generalizing d first with
  | nil =>
    rw [declareFrom, Except.ok.injEq, List.map_nil, List.append_nil, declared_nil]
    constructor
    · rintro rfl
      exact ⟨List.forall_mem_nil _, hd.names_nodup, rfl⟩
    · rintro ⟨-, -, rfl⟩
      rfl
  | cons name rest ih =>
    -- after the first name the draft is ready for the ID of the next one
    rw [declareFrom, Except.bind_eq_ok_iff, List.forall_mem_cons, List.map_cons]
    constructor
    · rintro ⟨d₁, h₁, h₂⟩
      obtain ⟨hkey, hnew, rfl⟩ := hd.declare_eq_ok_iff.mp h₁
      obtain ⟨hkeys, hnodup, rfl⟩ := (ih (hd.declared [name] hnew)).mp h₂
      refine ⟨⟨hkey, hkeys⟩, ?_, declared_cons ..⟩
      simpa using hnodup
    · rintro ⟨⟨hkey, hkeys⟩, hnodup, rfl⟩
      have hsplit : d.content.names ++ d.content.key name :: rest.map d.content.key =
          (d.content.names ++ [d.content.key name]) ++ rest.map d.content.key := by simp
      rw [hsplit] at hnodup
      have hnew : (d.content.names ++ [d.content.key name]).Nodup := (List.nodup_append.mp hnodup).1
      refine ⟨_, hd.declare_eq_ok_iff.mpr ⟨hkey, hnew, rfl⟩,
        (ih (hd.declared [name] hnew)).mpr ⟨hkeys, ?_, (declared_cons ..).symm⟩⟩
      simpa using hnodup

/-- Declarations for consecutive fresh IDs are refused for one of the names. -/
theorem Ready.declareFrom_error {P : Int → Prop} {d : Draft} {first : Int} (hd : d.Ready first)
    (hP : ∀ e ∈ d.content.entries, P e.2) {names : List String}
    (hids : ∀ id ∈ idsFrom first names.length, P id) {f : Flaw}
    (h : d.declareFrom first names = .error f) : f.FoundIn P := by
  induction names generalizing d first with
  | nil => cases h
  | cons name rest ih =>
    rw [List.length_cons, idsFrom_succ, List.forall_mem_cons] at hids
    rcases Except.bind_eq_error_iff.mp h with h | ⟨d₁, h₁, h₂⟩
    · exact hd.declare_error hP hids.1 h
    · obtain ⟨-, hnew, rfl⟩ := hd.declare_eq_ok_iff.mp h₁
      refine ih (hd.declared [name] hnew) ?_ hids.2 h₂
      intro e he
      rcases List.mem_append.mp he with he | he
      · exact hP e he
      · rw [List.mem_singleton.mp he]
        exact hids.1

/-- Declarations keep a lexicon sound. -/
theorem sound_of_declareFrom {d d' : Draft} (hd : d.content.Sound) {first : Int}
    {names : List String} (h : d.declareFrom first names = .ok d') : d'.content.Sound := by
  induction names generalizing d first with
  | nil =>
    cases h
    exact hd
  | cons name rest ih =>
    obtain ⟨d₁, h₁, h₂⟩ := Except.bind_eq_ok_iff.mp h
    obtain ⟨d₀, hassign, hdisplay⟩ := Except.bind_eq_ok_iff.mp h₁
    exact ih ((hd.assign hassign).setDisplay hdisplay) h₂

end Draft

end Lexicon

/-! ### The mnemonics of a declaration -/

open Lexicon (Draft)

/-- The generic mnemonics, entered for an owner. -/
def genericDraft (owner : String) (generic : List String) : Draft :=
  (Draft.empty Miss.instruction Lexicon.opcodeFallback true (some owner)).declared 0 generic

/-- The keys of generic mnemonics followed by those of others. -/
theorem names_genericDraft_append (owner : String) (generic names : List String) :
    (genericDraft owner generic).content.names ++
        names.map (genericDraft owner generic).content.key =
      (generic ++ names).map (Text.key true) := by
  rw [List.map_append, genericDraft, Draft.names_declared]
  rfl

/-- Generic mnemonics can be entered exactly if none is blank and their keys differ. -/
theorem declareFrom_generic_eq_ok_iff {owner : String} {generic : List String} {draft : Draft} :
    (Draft.empty Miss.instruction Lexicon.opcodeFallback true (some owner)).declareFrom 0 generic =
        .ok draft ↔
      (∀ name ∈ generic, Text.key true name ≠ "") ∧ (generic.map (Text.key true)).Nodup ∧
        draft = genericDraft owner generic :=
  (Draft.ready_empty _ _ _ _ _).declareFrom_eq_ok_iff

theorem ready_genericDraft (owner : String) {generic : List String}
    (h : (generic.map (Text.key true)).Nodup) :
    (genericDraft owner generic).Ready generic.length := by
  have hready := (Draft.ready_empty Miss.instruction Lexicon.opcodeFallback true (some owner)
    0).declared generic h
  rwa [Int.zero_add] at hready

namespace Declaration

/-- What is asked of the mnemonics: they come after the generic ones, none is blank, and their keys
differ. -/
structure OpcodesWellFormed (d : Declaration) (generic : List String) : Prop where
  length_le_base : (generic.length : Int) ≤ d.opcodeBase
  key_ne_empty : ∀ name ∈ generic ++ d.mnemonics, Text.key true name ≠ ""
  mnemonics_nodup : ((generic ++ d.mnemonics).map (Text.key true)).Nodup

theorem OpcodesWellFormed.base_nonneg {d : Declaration} {generic : List String}
    (h : d.OpcodesWellFormed generic) : 0 ≤ d.opcodeBase :=
  Int.le_trans (Int.natCast_nonneg _) h.length_le_base

/-- All mnemonics of a declaration, the generic ones first. -/
def opcodeDraft (d : Declaration) (generic : List String) : Draft :=
  (genericDraft d.name generic).declared d.opcodeBase d.mnemonics

/-- The names are the keys of all mnemonics, in order. -/
theorem names_opcodeDraft (d : Declaration) (generic : List String) :
    (d.opcodeDraft generic).content.names = (generic ++ d.mnemonics).map (Text.key true) := by
  rw [opcodeDraft, Draft.names_declared, names_genericDraft_append]

theorem stop_genericRange (generic : List String) :
    (genericRange generic).stop = generic.length :=
  Nat.zero_add _

/-- Well-formed mnemonics can be declared, the generic ones first. -/
theorem OpcodesWellFormed.declareFrom_eq {d : Declaration} {generic : List String}
    (h : d.OpcodesWellFormed generic) :
    (Draft.empty Miss.instruction Lexicon.opcodeFallback true (some d.name)).declareFrom 0 generic =
        .ok (genericDraft d.name generic) ∧
      (genericDraft d.name generic).declareFrom d.opcodeBase d.mnemonics =
        .ok (d.opcodeDraft generic) := by
  have hkeys := List.forall_mem_append.mp h.key_ne_empty
  have hnodup := h.mnemonics_nodup
  have hgeneric : (generic.map (Text.key true)).Nodup := by
    rw [List.map_append] at hnodup
    exact (List.nodup_append.mp hnodup).1
  have hready := (ready_genericDraft d.name hgeneric).mono h.length_le_base
  rw [← names_genericDraft_append d.name] at hnodup
  exact ⟨declareFrom_generic_eq_ok_iff.mpr ⟨hkeys.1, hgeneric, rfl⟩,
    hready.declareFrom_eq_ok_iff.mpr ⟨hkeys.2, hnodup, rfl⟩⟩

/-- **The lexicon of the mnemonics is built exactly from those that are well-formed.** -/
theorem buildOpcodes_eq_ok_iff {d : Declaration} {generic : List String} {x : Lexicon} :
    d.buildOpcodes generic = .ok x ↔
      d.OpcodesWellFormed generic ∧ x = (d.opcodeDraft generic).content := by
  unfold buildOpcodes
  rw [stop_genericRange]
  by_cases hbase : d.opcodeBase < generic.length
  · rw [if_pos hbase]
    constructor
    · intro h
      cases h
    · rintro ⟨h, -⟩
      exact absurd h.length_le_base (Int.not_le.mpr hbase)
  · rw [if_neg hbase]
    simp only [Except.bind_eq_ok_iff, declareFrom_generic_eq_ok_iff]
    constructor
    · rintro ⟨draft, ⟨hkeys, hnodup, rfl⟩, draft', h, hx⟩
      have hready := (ready_genericDraft d.name hnodup).mono (Int.not_lt.mp hbase)
      obtain ⟨hkeys', hnodup', rfl⟩ := hready.declareFrom_eq_ok_iff.mp h
      cases hx
      refine ⟨⟨Int.not_lt.mp hbase, ?_, ?_⟩, rfl⟩
      · exact List.forall_mem_append.mpr ⟨hkeys, hkeys'⟩
      · rwa [names_genericDraft_append] at hnodup'
    · rintro ⟨h, rfl⟩
      exact ⟨_, declareFrom_generic_eq_ok_iff.mp h.declareFrom_eq.1, _, h.declareFrom_eq.2, rfl⟩

/-- What a finished lexicon of mnemonics is like: it is sound, its names stand for generic opcodes
and those of the declaration, each of these is shown by one of them, and a generic one by what every
lexicon shows it by. -/
theorem OpcodesWellFormed.spec {d : Declaration} {generic : List String}
    (h : d.OpcodesWellFormed generic) :
    (d.opcodeDraft generic).content.Sound ∧
      (∀ e ∈ (d.opcodeDraft generic).content.entries,
        e.2 ∈ idsFrom 0 generic.length ∨ e.2 ∈ idsFrom d.opcodeBase d.mnemonics.length) ∧
      (∀ id, id ∈ idsFrom 0 generic.length ∨ id ∈ idsFrom d.opcodeBase d.mnemonics.length →
        (d.opcodeDraft generic).content.hasDisplay id = true) ∧
      ∀ owner, ∀ id ∈ idsFrom 0 generic.length, (d.opcodeDraft generic).content.display id =
        (genericDraft owner generic).content.display id := by
  refine ⟨?_, ?_, ?_, ?_⟩
  · exact Draft.sound_of_declareFrom (Draft.sound_of_declareFrom (Lexicon.sound_empty _ _ _ _)
      h.declareFrom_eq.1) h.declareFrom_eq.2
  · intro e he
    rcases Draft.mem_entries_declared he with he | he
    · rcases Draft.mem_entries_declared he with he | he
      · cases he
      · exact Or.inl he
    · exact Or.inr he
  · intro id hid
    rw [Lexicon.hasDisplay_iff, opcodeDraft, Draft.map_fst_displays_declared, genericDraft,
      Draft.map_fst_displays_declared, List.append_assoc, List.mem_append, List.mem_append]
    exact Or.inr hid
  · intro owner id hid
    have hshown : (genericDraft owner generic).content.hasDisplay id = true := by
      rw [Lexicon.hasDisplay_iff, genericDraft, Draft.map_fst_displays_declared, List.mem_append]
      exact Or.inr hid
    obtain ⟨name, hname⟩ := Option.isSome_iff_exists.mp hshown
    have hname' : (d.opcodeDraft generic).content.display? id = some name := by
      have hgeneric : (genericDraft d.name generic).content.display? id = some name := hname
      exact (List.prefix_append _ _).lookup_eq_some hgeneric
    rw [Lexicon.display, Lexicon.display, hname, hname']

/-- Mnemonics are refused for their base or for one of the names, never for what an opcode is to be
shown by. -/
theorem buildOpcodes_error {P : Int → Prop} {d : Declaration} {generic : List String} {f : Flaw}
    (hgeneric : ∀ n : Int, 0 ≤ n → n ≤ generic.length → P n)
    (hown : ∀ n : Int, d.opcodeBase ≤ n → n ≤ d.opcodeBase + d.mnemonics.length → P n)
    (h : d.buildOpcodes generic = .error f) : f.FoundIn P := by
  unfold buildOpcodes at h
  rw [stop_genericRange] at h
  split at h
  · cases h
    refine ⟨rfl, ?_⟩
    simp only [FlawCause.numbers, List.forall_mem_cons, stop_genericRange]
    exact ⟨hown _ (Int.le_refl _) (by omega), hgeneric 0 (Int.le_refl 0) (by omega),
      hgeneric _ (by omega) (Int.le_refl _), List.forall_mem_nil _⟩
  · next hbase =>
    -- the generic opcodes are below the base, so the second run finds its IDs fresh
    have hids : ∀ id ∈ idsFrom 0 generic.length, P id := by
      intro id hid
      rw [mem_idsFrom_iff] at hid
      exact hgeneric id (by omega) (by omega)
    rcases Except.bind_eq_error_iff.mp h with h | ⟨draft, hdraft, h⟩
    · exact (Draft.ready_empty _ _ _ _ _).declareFrom_error (List.forall_mem_nil _) hids h
    obtain ⟨-, hnodup, rfl⟩ := declareFrom_generic_eq_ok_iff.mp hdraft
    have hready := (ready_genericDraft d.name hnodup).mono (Int.not_lt.mp hbase)
    rcases Except.bind_eq_error_iff.mp h with h | ⟨draft, -, h⟩
    · refine hready.declareFrom_error ?_ ?_ h
      · intro e he
        rcases Draft.mem_entries_declared he with he | he
        · cases he
        · exact hids _ he
      · intro id hid
        rw [mem_idsFrom_iff] at hid
        exact hown id (by omega) (by omega)
    · cases h

end Declaration

end IsaNames
