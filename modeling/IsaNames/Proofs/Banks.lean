import IsaNames.Proofs.Layout
import IsaNames.Proofs.Lexicon

/-!
# Entering banks of registers

Banks are laid out one after the other, and their numbered names are entered on the way.  That a
bank can be entered depends on the draft only through the keys that are there: the IDs of the bank
are fresh, because the draft is ready for the first of them.

## Main definitions

* `bindings` — numbered registers as entries.

## Main results

* `assignNumbered_eq_ok_iff` — when numbered names can be entered.
* `layBanks_eq_ok_iff`, `layBanks_error` — when banks can be laid out, and what is wrong otherwise.
-/

namespace IsaNames

open Lexicon (Draft)

variable {P : Int → Prop} {d d' : Draft} {first : Int} {f : Flaw} {e : Fault}

/-! ### Numbered names -/

/-- Numbered registers as entries, under the keys of their names. -/
def bindings (key : String → String) (registers : List Numbered) : List (String × Int) :=
  registers.map fun r => (key r.name, r.id)

theorem bindings_append (key : String → String) (registers others : List Numbered) :
    bindings key (registers ++ others) = bindings key registers ++ bindings key others :=
  List.map_append

/-- The entry of a numbered register has its ID. -/
theorem mem_ids_of_mem_bindings {key : String → String} {registers : List Numbered}
    {row : String × Int} (h : row ∈ bindings key registers) : row.2 ∈ registers.map (·.id) := by
  obtain ⟨r, hr, rfl⟩ := List.mem_map.mp h
  exact List.mem_map_of_mem hr

/-- The keys of a draft with more registers. -/
theorem names_addEntries_bindings (d : Draft) (registers : List Numbered) :
    (d.addEntries (bindings d.content.key registers)).content.names =
      d.content.names ++ registers.map fun r => d.content.key r.name := by
  rw [Draft.names_addEntries, bindings, List.map_map]
  rfl

/-- The first of registers with different IDs has an ID that none of the others has. -/
theorem nodup_ids_cons_iff {r : Numbered} {rest : List Numbered} :
    ((r :: rest).map (·.id)).Nodup ↔
      (∀ r' ∈ rest, r.id ≠ r'.id) ∧ (rest.map (·.id)).Nodup := by
  rw [List.map_cons, List.nodup_cons]
  refine and_congr_left fun _ => ?_
  constructor
  · intro h r' hr' heq
    rw [heq] at h
    exact h (List.mem_map_of_mem hr')
  · intro h hmem
    obtain ⟨r', hr', hid⟩ := List.mem_map.mp hmem
    exact h r' hr' hid.symm

/-- Numbered names can be entered for different fresh IDs exactly if their keys differ from each
other and from those that are there. -/
theorem assignNumbered_eq_ok_iff (hopen : d.isClosed = false) (hd : d.content.names.Nodup)
    {registers : List Numbered} (hids : (registers.map (·.id)).Nodup)
    (hfresh : ∀ r ∈ registers, ∀ e ∈ d.content.entries, e.2 ≠ r.id)
    (hkeys : ∀ r ∈ registers, d.content.key r.name ≠ "") :
    assignNumbered d registers = .ok d' ↔
      (d.content.names ++ registers.map fun r => d.content.key r.name).Nodup ∧
        d' = d.addEntries (bindings d.content.key registers) := by
  induction registers generalizing d with
  | nil =>
    simp only [assignNumbered, List.foldlM_nil, bindings, List.map_nil, List.append_nil,
      Draft.addEntries_nil, hd, true_and]
    constructor
    · rintro ⟨⟩
      rfl
    · rintro rfl
      rfl
  | cons r rest ih =>
    rw [nodup_ids_cons_iff] at hids
    rw [List.forall_mem_cons] at hfresh hkeys
    -- after the first name the draft is as the rest needs it
    have hstep : d.content.key r.name ∉ d.content.names →
        (assignNumbered (d.addEntries [(d.content.key r.name, r.id)]) rest = .ok d' ↔
          (d.content.names ++ (r :: rest).map fun r => d.content.key r.name).Nodup ∧
            d' = d.addEntries (bindings d.content.key (r :: rest))) := by
      intro hnew
      have hnames : (d.addEntries [(d.content.key r.name, r.id)]).content.names.Nodup := by
        rw [Draft.names_addEntries, List.map_singleton, ← List.concat_eq_append]
        exact hd.concat hnew
      have hfresh' : ∀ r' ∈ rest,
          ∀ e ∈ (d.addEntries [(d.content.key r.name, r.id)]).content.entries, e.2 ≠ r'.id := by
        intro r' hr' e he
        rcases List.mem_append.mp he with he | he
        · exact hfresh.2 r' hr' e he
        · rw [List.mem_singleton.mp he]
          exact hids.1 r' hr'
      have hopen' : (d.addEntries [(d.content.key r.name, r.id)]).isClosed = false := hopen
      rw [ih hopen' hnames hids.2 hfresh' hkeys.2, Draft.names_addEntries, List.append_assoc,
        Draft.addEntries_addEntries]
      rfl
    rw [assignNumbered, List.foldlM_cons, Except.bind_eq_ok_iff]
    constructor
    · rintro ⟨d₁, h₁, h₂⟩
      obtain ⟨-, hnew, rfl⟩ := (Draft.assign_fresh_eq_ok_iff hopen hfresh.1).mp h₁
      exact (hstep hnew).mp h₂
    · rintro ⟨hnodup, hd'⟩
      have hnew : d.content.key r.name ∉ d.content.names := by
        intro hmem
        exact (List.nodup_append.mp hnodup).2.2 _ hmem _ (List.mem_cons_self ..) rfl
      exact ⟨_, (Draft.assign_fresh_eq_ok_iff hopen hfresh.1).mpr ⟨hkeys.1, hnew, rfl⟩,
        (hstep hnew).mpr ⟨hnodup, hd'⟩⟩

/-- A numbered name is refused as a name. -/
theorem assignNumbered_error (hopen : d.isClosed = false) (hd : ∀ e ∈ d.content.entries, P e.2)
    {registers : List Numbered} (hids : ∀ r ∈ registers, P r.id)
    (h : assignNumbered d registers = .error f) : f.FoundIn P := by
  induction registers generalizing d with
  | nil => cases h
  | cons r rest ih =>
    rw [List.forall_mem_cons] at hids
    rw [assignNumbered, List.foldlM_cons, Except.bind_eq_error_iff] at h
    rcases h with h | ⟨d₁, h₁, h₂⟩
    · exact Draft.assign_error hopen hd hids.1 h
    · refine ih (Draft.assign_keeps h₁).1 ?_ hids.2 h₂
      exact Draft.forall_entries_assign hd hids.1 h₁

/-! ### Banks -/

namespace Lexicon.Draft

/-- The names of a bank can be entered from the next ID on exactly if their keys differ from each
other and from those that are there. -/
theorem Ready.assignNumbered_eq_ok_iff (hd : d.Ready first) {bank : Bank} :
    assignNumbered d (bank.numbered first) = .ok d' ↔
      (d.content.names ++ (bank.numbered first).map fun r => d.content.key r.name).Nodup ∧
        d' = d.addEntries (bindings d.content.key (bank.numbered first)) := by
  refine IsaNames.assignNumbered_eq_ok_iff hd.isOpen hd.names_nodup ?_ ?_ ?_
  · rw [Bank.map_id_numbered]
    exact nodup_idsFrom _ _
  · intro r hr e he
    have hid : r.id ∈ (bank.numbered first).map (·.id) := List.mem_map_of_mem hr
    rw [Bank.map_id_numbered, mem_idsFrom_iff] at hid
    have := hd.entry_lt e he
    omega
  · intro r hr
    exact Bank.key_ne_empty_of_mem_numbered hr

/-- After a bank was entered the draft is ready for the ID after it. -/
theorem Ready.addBank (hd : d.Ready first) {bank : Bank} (hcount : 0 ≤ bank.count)
    (hnames : (d.content.names ++ (bank.numbered first).map fun r => d.content.key r.name).Nodup) :
    (d.addEntries (bindings d.content.key (bank.numbered first))).Ready (first + bank.count) where
  isOpen := hd.isOpen
  names_nodup := by
    rw [names_addEntries_bindings]
    exact hnames
  entry_lt := by
    intro e he
    rcases List.mem_append.mp he with he | he
    · have := hd.entry_lt e he
      omega
    · have hid := mem_ids_of_mem_bindings he
      rw [Bank.map_id_numbered, mem_idsFrom_iff] at hid
      omega
  display_lt := by
    intro e he
    have := hd.display_lt e he
    omega

end Lexicon.Draft

/-- Banks can be laid out exactly if there are no negative numbers and the keys of all numbered names
differ from each other and from those that are there. -/
theorem layBanks_eq_ok_iff (hd : d.Ready first) {banks : List Bank}
    {laid : Draft × List IdRange × List Numbered} :
    (layBanks d first banks).outcome = .ok laid ↔
      (banks ≠ [] → 0 ≤ first) ∧ (∀ b ∈ banks, 0 ≤ b.count) ∧
      (d.content.names ++ (layOut first banks).map fun r => d.content.key r.name).Nodup ∧
      laid = (d.addEntries (bindings d.content.key (layOut first banks)), bankRanges first banks,
        layOut first banks) := by
  induction banks generalizing d first laid with
  | nil =>
    simp only [layBanks, Traced.outcome_pure, Except.ok.injEq, layOut, bindings, List.map_nil,
      List.append_nil, Draft.addEntries_nil, bankRanges, hd.names_nodup, true_and]
    constructor
    · rintro rfl
      exact ⟨fun h => absurd rfl h, List.forall_mem_nil _, rfl⟩
    · rintro ⟨-, -, rfl⟩
      rfl
  | cons bank rest ih =>
    -- once the bank is entered the draft is ready for the first ID of the next one
    simp only [layBanks, Traced.outcome_bind, Traced.outcome_ranged, Traced.outcome_flawed,
      Traced.outcome_pure, Except.bind_eq_ok_iff, Except.mapError_eq_ok_iff,
      IdRange.make_eq_ok_iff, hd.assignNumbered_eq_ok_iff, List.forall_mem_cons, layOut,
      List.map_append, bindings_append, bankRanges]
    constructor
    · rintro ⟨range, ⟨hbase, hcount⟩, d₁, ⟨hnames, rfl⟩, laid', hlaid, hlast⟩
      have hready := hd.addBank (by omega) hnames
      obtain ⟨-, hcounts, hnodup, rfl⟩ := (ih hready).mp hlaid
      cases hlast
      refine ⟨fun _ => by omega, ⟨by omega, hcounts⟩, ?_, ?_⟩
      · rw [names_addEntries_bindings, List.append_assoc] at hnodup
        exact hnodup
      · rw [Draft.addEntries_addEntries, hbase, hcount]
        rfl
    · rintro ⟨hbase, ⟨hcount, hcounts⟩, hnodup, rfl⟩
      have hbase : 0 ≤ first := hbase (List.cons_ne_nil _ _)
      rw [← List.append_assoc] at hnodup
      have hnames := (List.nodup_append.mp hnodup).1
      have hready := hd.addBank hcount hnames
      rw [← names_addEntries_bindings] at hnodup
      refine ⟨⟨first.toNat, bank.count.toNat⟩,
        ⟨(Int.toNat_of_nonneg hbase).symm, (Int.toNat_of_nonneg hcount).symm⟩, _, ⟨hnames, rfl⟩, _, (ih hready).mpr ⟨fun _ => by omega, hcounts, hnodup, rfl⟩, ?_⟩
      rw [Draft.addEntries_addEntries]
      rfl

/-- Banks are refused for a name, for a negative base or for a negative number of registers. -/
theorem layBanks_error (hd : d.Ready first) (hP : ∀ e ∈ d.content.entries, P e.2)
    {banks : List Bank}
    (hids : ∀ n : Int, first ≤ n → n < first + registerCount banks → P n)
    (h : (layBanks d first banks).outcome = .error e) :
    (∃ f : Flaw, f.FoundIn P ∧ e = f.fault) ∨
      (first < 0 ∧ e = .badRange (.negativeBase first)) ∨
      ∃ b ∈ banks, b.count < 0 ∧ e = .badRange (.negativeSize b.count) := by
  induction banks generalizing d first with
  | nil => cases h
  | cons bank rest ih =>
    have hsum : registerCount (bank :: rest) = bank.count.toNat + registerCount rest := rfl
    rw [hsum] at hids
    simp only [layBanks, Traced.outcome_bind, Traced.outcome_ranged, Traced.outcome_flawed] at h
    rcases Except.bind_eq_error_iff.mp h with h | ⟨range, hrange, h⟩
    · obtain ⟨c, hc, rfl⟩ := Except.mapError_eq_error_iff.mp h
      rcases IdRange.make_eq_error_iff.mp hc with ⟨hbase, rfl⟩ | ⟨-, hcount, rfl⟩
      · exact Or.inr (Or.inl ⟨hbase, rfl⟩)
      · exact Or.inr (Or.inr ⟨bank, List.mem_cons_self .., hcount, rfl⟩)
    obtain ⟨hbase, hcount⟩ := IdRange.make_eq_ok_iff.mp (Except.mapError_eq_ok_iff.mp hrange)
    have hnumbered : ∀ r ∈ bank.numbered first, P r.id := by
      intro r hr
      have hid : r.id ∈ (bank.numbered first).map (·.id) := List.mem_map_of_mem hr
      rw [Bank.map_id_numbered, mem_idsFrom_iff] at hid
      exact hids _ hid.1 (by omega)
    rcases Except.bind_eq_error_iff.mp h with h | ⟨d₁, hassign, h⟩
    · obtain ⟨f, hf, rfl⟩ := Except.mapError_eq_error_iff.mp h
      exact Or.inl ⟨f, assignNumbered_error hd.isOpen hP hnumbered hf, rfl⟩
    obtain ⟨hnames, rfl⟩ := hd.assignNumbered_eq_ok_iff.mp (Except.mapError_eq_ok_iff.mp hassign)
    have hready := hd.addBank (by omega) hnames
    rcases Except.bind_eq_error_iff.mp h with h | ⟨laid, -, h⟩
    · have hentries : ∀ e ∈ (d.addEntries (bindings d.content.key
          (bank.numbered first))).content.entries, P e.2 := by
        intro e he
        rcases List.mem_append.mp he with he | he
        · exact hP e he
        · obtain ⟨r, hr, rfl⟩ := List.mem_map.mp he
          exact hnumbered r hr
      have hrest : ∀ n : Int, first + bank.count ≤ n →
          n < first + bank.count + registerCount rest → P n := by
        intro n hle hlt
        exact hids n (by omega) (by omega)
      rcases ih hready hentries hrest h with hflaw | ⟨hneg, -⟩ | ⟨b, hb, hneg, rfl⟩
      · exact Or.inl hflaw
      · -- a later bank does not begin below the first one
        omega
      · exact Or.inr (Or.inr ⟨b, List.mem_cons_of_mem _ hb, hneg, rfl⟩)
    · cases h

end IsaNames
