import IsaNames.Proofs.Dispatch
import IsaNames.Proofs.Startup

/-!
# The mnemonics of an architecture

The lexicon of the mnemonics consists of two runs of names: the generic ones from opcode zero on and
those of the architecture from the base it declares.  The base is not below the end of the first run,
and the keys of both runs differ, so nothing in one of them takes anything away from the other.

## Main definitions

* `Declaration.opcodeRows` — all mnemonics with the opcodes that they are declared for.
* `Lexicon.Counts` — a lexicon has names for consecutive IDs.
* `Declaration.DescribesOpcodes` — the mnemonics of an architecture are the declared ones.

## Main results

* `Declaration.OpcodesWellFormed.idOf_eq_ok_iff`, `Declaration.OpcodesWellFormed.display?_eq_some_iff`
  — names and opcodes lead to each other by the rows.
* `Provider.opcodes_described` — **the lexicon of the mnemonics that is built is the declared one.**
-/

namespace IsaNames

open Lexicon (Draft)
open Text (leastTooLong)

/-- A name that is counted has its place and the ID of this place. -/
theorem mem_countFrom_iff {first : Int} {names : List String} {row : String × Int} :
    row ∈ countFrom first names ↔ ∃ k : Nat, names[k]? = some row.1 ∧ row.2 = first + k := by
  induction names generalizing first with
  | nil => simp [countFrom]
  | cons name rest ih =>
    rw [countFrom, List.mem_cons, ih]
    constructor
    · rintro (rfl | ⟨k, hk, hid⟩)
      · exact ⟨0, rfl, (Int.add_zero first).symm⟩
      · exact ⟨k + 1, hk, by omega⟩
    · rintro ⟨_ | k, hk, hid⟩
      · left
        cases hk
        exact Prod.ext rfl (hid.trans (Int.add_zero first))
      · exact .inr ⟨k, hk, by omega⟩

namespace Declaration

variable {d : Declaration} {generic : List String}

/-! ### Rows -/

/-- All mnemonics with the opcodes that they are declared for, the generic ones first. -/
def opcodeRows (d : Declaration) (generic : List String) : List (String × Int) :=
  countFrom 0 generic ++ countFrom d.opcodeBase d.mnemonics

theorem entries_opcodeDraft (d : Declaration) (generic : List String) :
    (d.opcodeDraft generic).content.entries =
      (d.opcodeRows generic).map fun row => (Text.key true row.1, row.2) := by
  rw [opcodeRows, List.map_append]
  rfl

theorem displays_opcodeDraft (d : Declaration) (generic : List String) :
    (d.opcodeDraft generic).content.displays = Lexicon.shown (d.opcodeRows generic) := by
  rw [opcodeRows, Lexicon.shown, List.map_append]
  rfl

namespace OpcodesWellFormed

variable {text : String} {id : Int}

/-- A text stands for the opcode of the mnemonic that it is a spelling of, and for nothing else. -/
theorem idOf_eq_ok_iff (h : d.OpcodesWellFormed generic) :
    (d.opcodeDraft generic).content.idOf text = .ok id ↔
      ∃ row ∈ d.opcodeRows generic, Text.key true row.1 = Text.key true text ∧ row.2 = id := by
  rw [Lexicon.idOf_eq_ok_iff, h.spec.1.idOf?_eq_some_iff, entries_opcodeDraft, List.mem_map]
  simp only [Prod.mk.injEq]
  rfl

/-- An opcode is shown by the mnemonic declared for it, and by nothing else. -/
theorem display?_eq_some_iff (h : d.OpcodesWellFormed generic) :
    (d.opcodeDraft generic).content.display? id = some text ↔
      ∃ row ∈ d.opcodeRows generic, row.2 = id ∧ Text.stripped row.1 = text := by
  rw [h.spec.1.display?_eq_some_iff, displays_opcodeDraft, Lexicon.shown, List.mem_map]
  simp only [Prod.mk.injEq]

/-- There are no other names of an opcode than the one that it is shown by. -/
theorem aliases_eq_nil (h : d.OpcodesWellFormed generic) (id : Int) :
    (d.opcodeDraft generic).content.aliases id = [] := by
  rw [List.eq_nil_iff_forall_not_mem]
  intro k hk
  obtain ⟨hentry, hne⟩ := Lexicon.mem_aliases_iff.mp hk
  rw [entries_opcodeDraft] at hentry
  obtain ⟨row, hrow, heq⟩ := List.mem_map.mp hentry
  cases heq
  rw [h.display?_eq_some_iff.mpr ⟨row, hrow, rfl, rfl⟩] at hne
  -- the name that the opcode is shown by has the key of the mnemonic
  apply hne
  rw [Option.map_some, Lexicon.key_stripped]
  rfl

/-- An opcode is among the generic ones or those of the architecture if a mnemonic is declared for
it. -/
theorem mem_ranges_of_mem_opcodeRows (h : d.OpcodesWellFormed generic) {row : String × Int}
    (hrow : row ∈ d.opcodeRows generic) : row.2 ∈ genericRange generic ∨
      row.2 ∈ (⟨d.opcodeBase.toNat, d.mnemonics.length⟩ : IdRange) := by
  rw [IdRange.mem_toNat_iff h.base_nonneg, IdRange.mem_iff_mem_idsFrom]
  rcases List.mem_append.mp hrow with hrow | hrow
  · exact .inl (mem_idsFrom_of_mem_countFrom hrow)
  · exact .inr (mem_idsFrom_of_mem_countFrom hrow)

/-- An ID that is in none of the two ranges is shown by the fallback. -/
theorem write?_display_outside (h : d.OpcodesWellFormed generic)
    (hgeneric : id ∉ genericRange generic)
    (hown : id ∉ (⟨d.opcodeBase.toNat, d.mnemonics.length⟩ : IdRange)) :
    ((d.opcodeDraft generic).content.display id).write? =
      if id.natAbs < leastTooLong then some ("A???" ++ toString id) else none := by
  have hnone : (d.opcodeDraft generic).content.display? id = none := by
    rw [Option.eq_none_iff_forall_ne_some]
    intro shown hshown
    obtain ⟨row, hrow, rfl, -⟩ := h.display?_eq_some_iff.mp hshown
    exact (h.mem_ranges_of_mem_opcodeRows hrow).elim hgeneric hown
  rw [Lexicon.display, hnone]
  exact write?_fallbackPhrase _ _

/-- The opcodes of the architecture come after the generic ones. -/
theorem ranges_disjoint (h : d.OpcodesWellFormed generic) (hgeneric : id ∈ genericRange generic) :
    id ∉ (⟨d.opcodeBase.toNat, d.mnemonics.length⟩ : IdRange) := by
  intro hown
  have hle := h.length_le_base
  have hfirst : (d.opcodeBase.toNat : Int) ≤ id := hown.1
  rw [mem_genericRange_iff] at hgeneric
  omega

/-- No mnemonic of the architecture has the key of a generic one. -/
theorem key_ne (h : d.OpcodesWellFormed generic) {name own : String} (hname : name ∈ generic)
    (hown : own ∈ d.mnemonics) : Text.key true name ≠ Text.key true own := by
  have hkeys := h.mnemonics_nodup
  rw [List.map_append, List.nodup_append] at hkeys
  exact hkeys.2.2 _ (List.mem_map_of_mem hname) _ (List.mem_map_of_mem hown)

end OpcodesWellFormed

/-- A text that is a spelling of no mnemonic is not known. -/
theorem idOf_opcodeDraft_of_notMem {text : String}
    (h : Text.key true text ∉ (generic ++ d.mnemonics).map (Text.key true)) :
    (d.opcodeDraft generic).content.idOf text = .error ⟨Miss.instruction, text⟩ := by
  have hnone : (d.opcodeDraft generic).content.idOf? text = none := by
    rw [Lexicon.idOf?_eq_none_iff, names_opcodeDraft]
    exact h
  rw [Lexicon.idOf, hnone]
  rfl

/-- There is one name for each mnemonic. -/
theorem size_opcodeDraft (d : Declaration) (generic : List String) :
    (d.opcodeDraft generic).content.size = generic.length + d.mnemonics.length := by
  have hlength : (d.opcodeDraft generic).content.names.length =
      generic.length + d.mnemonics.length := by
    rw [names_opcodeDraft, List.length_map, List.length_append]
  rw [Lexicon.names, List.length_map] at hlength
  exact hlength

end Declaration

/-! ### The lexicon of the mnemonics -/

/-- A lexicon has these names for the IDs of a range: each name stands for the ID of its place, in any
spelling with its key, and each ID of the range is shown by the name at its place. -/
structure Lexicon.Counts (x : Lexicon) (range : IdRange) (first : Int) (names : List String) :
    Prop where
  base_eq : (range.base : Int) = first
  size_eq : range.size = names.length
  idOf : ∀ (k : Nat) name, names[k]? = some name → ∀ text,
    Text.key true text = Text.key true name → x.idOf text = .ok (first + k)
  display : ∀ id ∈ range, ∃ (k : Nat) (name : String), names[k]? = some name ∧ id = first + k ∧
    (x.display id).write? = some (Text.stripped name)

namespace Declaration

variable {d : Declaration} {generic : List String} {a : Architecture}

/-- The mnemonics of an architecture are the declared ones. -/
structure DescribesOpcodes (d : Declaration) (generic : List String) (a : Architecture) : Prop where
  generic_counted : a.opcodes.Counts a.genericRange 0 generic
  own_counted : a.opcodes.Counts a.opcodeRange d.opcodeBase d.mnemonics
  /-- A text that is a spelling of none of them is not known. -/
  idOf_unknown : ∀ text, Text.key true text ∉ (generic ++ d.mnemonics).map (Text.key true) →
    a.opcodes.idOf text = .error ⟨Miss.instruction, text⟩
  size_eq : a.opcodes.size = generic.length + d.mnemonics.length
  aliases_eq : ∀ id, a.opcodes.aliases id = []
  /-- An ID outside of both ranges is shown by the fallback and its number; a number of more digits
  than can be written has no text. -/
  display_outside : ∀ id : Int, id ∉ a.genericRange → id ∉ a.opcodeRange →
    (a.opcodes.display id).write? =
      if id.natAbs < leastTooLong then some ("A???" ++ toString id) else none
  /-- The two ranges have no ID in common. -/
  ranges_disjoint : ∀ id ∈ a.genericRange, id ∉ a.opcodeRange
  /-- No mnemonic of the architecture is a spelling of a generic one. -/
  key_ne : ∀ name ∈ generic, ∀ own ∈ d.mnemonics, Text.key true name ≠ Text.key true own

/-- The names of a run that is among the rows are counted. -/
theorem OpcodesWellFormed.counts (h : d.OpcodesWellFormed generic) {range : IdRange} {first : Int}
    {names : List String} (hbase : (range.base : Int) = first) (hsize : range.size = names.length)
    (hrows : countFrom first names ⊆ d.opcodeRows generic) :
    (d.opcodeDraft generic).content.Counts range first names where
  base_eq := hbase
  size_eq := hsize
  idOf := by
    intro k name hname text hkey
    have hrow : (name, first + (k : Int)) ∈ countFrom first names :=
      mem_countFrom_iff.mpr ⟨k, hname, rfl⟩
    exact h.idOf_eq_ok_iff.mpr ⟨_, hrows hrow, hkey.symm, rfl⟩
  display := by
    intro id hid
    rw [IdRange.mem_iff, hbase, hsize] at hid
    obtain ⟨k, rfl⟩ : ∃ k : Nat, id = first + k := ⟨(id - first).toNat, by omega⟩
    have hk : k < names.length := by omega
    have hname : names[k]? = some names[k] := List.getElem?_eq_getElem hk
    have hrow : (names[k], first + (k : Int)) ∈ countFrom first names :=
      mem_countFrom_iff.mpr ⟨k, hname, rfl⟩
    refine ⟨k, names[k], hname, rfl, ?_⟩
    rw [Lexicon.display, h.display?_eq_some_iff.mpr ⟨_, hrows hrow, rfl, rfl⟩]
    rfl

/-- The mnemonics of what a declaration is built into are the declared ones. -/
theorem describesOpcodes_of_build (h : (d.build generic).outcome = .ok a) :
    d.DescribesOpcodes generic a := by
  obtain ⟨x, ranges, -, hwf, rfl⟩ := build_eq_ok_iff.mp h
  have hbase : (d.opcodeBase.toNat : Int) = d.opcodeBase := Int.toNat_of_nonneg hwf.base_nonneg
  exact
    { generic_counted := hwf.counts rfl rfl (List.subset_append_left _ _)
      own_counted := hwf.counts hbase rfl (List.subset_append_right _ _)
      idOf_unknown := fun _ htext => idOf_opcodeDraft_of_notMem htext
      size_eq := size_opcodeDraft d generic
      aliases_eq := hwf.aliases_eq_nil
      display_outside := fun _ hgeneric hown => hwf.write?_display_outside hgeneric hown
      ranges_disjoint := fun _ hgeneric => hwf.ranges_disjoint hgeneric
      key_ne := fun _ hname _ hown => hwf.key_ne hname hown }

end Declaration

namespace Provider

/-- **The lexicon of the mnemonics that is built is the declared one**: mnemonics stand for the opcodes
of their places, in any spelling, each opcode is shown by its mnemonic, and there are no other names. -/
theorem opcodes_described {d : Declaration} {generic : List String} {a : Architecture}
    (h : (build generic { declaration := d }).2.outcome = .ok a) : d.DescribesOpcodes generic a :=
  Declaration.describesOpcodes_of_build (build_of_fresh h)

/-- Generic mnemonics with blanks and capitals around them, a gap before the others. -/
theorem opcodes_described_after_gap :
    ∃ a, (build ["nop", " Call"] { declaration :=
        ⟨"x", 0, [⟨"r", 1, false⟩], [], 5, ["add", "Sub "]⟩ }).2.outcome = .ok a ∧
      Declaration.DescribesOpcodes ⟨"x", 0, [⟨"r", 1, false⟩], [], 5, ["add", "Sub "]⟩
        ["nop", " Call"] a := by
  obtain ⟨a, ha⟩ : ∃ a, (build ["nop", " Call"] { declaration :=
      ⟨"x", 0, [⟨"r", 1, false⟩], [], 5, ["add", "Sub "]⟩ }).2.outcome = .ok a := ⟨_, rfl⟩
  exact ⟨a, ha, opcodes_described ha⟩

/-- An opcode outside of both ranges that has more digits than can be written has no text. -/
theorem mnemonic_unwritable :
    ∃ a, (build ["nop"] { declaration := ⟨"x", 0, [], [], 1, ["add"]⟩ }).2.outcome = .ok a ∧
      (leastTooLong : Int) ∉ a.genericRange ∧ (leastTooLong : Int) ∉ a.opcodeRange ∧
      (a.opcodes.display (leastTooLong : Int)).write? = none := by
  obtain ⟨a, ha⟩ : ∃ a, (build ["nop"] { declaration := ⟨"x", 0, [], [], 1, ["add"]⟩ }).2.outcome =
      .ok a := ⟨_, rfl⟩
  have hdescribes := Declaration.describesOpcodes_of_build (build_of_fresh ha)
  have hlong := Text.one_lt_leastTooLong
  have hgeneric : (leastTooLong : Int) ∉ a.genericRange := by
    rw [IdRange.mem_iff, hdescribes.generic_counted.base_eq, hdescribes.generic_counted.size_eq]
    simp only [List.length_singleton]
    omega
  have hown : (leastTooLong : Int) ∉ a.opcodeRange := by
    rw [IdRange.mem_iff, hdescribes.own_counted.base_eq, hdescribes.own_counted.size_eq]
    simp only [List.length_singleton]
    omega
  refine ⟨a, ha, hgeneric, hown, ?_⟩
  rw [hdescribes.display_outside _ hgeneric hown, Int.natAbs_natCast, if_neg (Nat.lt_irrefl _)]

end Provider

end IsaNames
