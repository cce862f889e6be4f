import IsaNames.Proofs.RegisterNames

/-!
# The numbers of registers in their banks

Registers are numbered bank by bank, and the number that a register has in its bank is found again
from its ID.  The banks leave no gap, so every ID of the range of the registers is in one of them, and
the search for it meets that one, whatever empty banks there are.

## Main definitions

* `Declaration.Numbers` — the banks of an architecture are the declared ones, and numbers lead back to
  IDs.

## Main results

* `Architecture.indexOf_of_mem` — the number of a register is told by its bank.
* `Provider.registers_numbered` — **numbers in banks and IDs lead to each other.**
-/

namespace IsaNames

/-! ### Searching the banks -/

namespace Architecture

variable {a : Architecture} {first stop : Nat} {id : Int}

/-- The number of a register is told by its bank, whatever banks there are before it. -/
theorem indexOf_of_mem (h : Tiles first a.banks stop) {r : IdRange} (hr : r ∈ a.banks) (hid : id ∈ r) :
    a.indexOf id = .ok (id - r.base) := by
  rw [indexOf, h.find?_eq hr hid]
  exact if_pos hid

/-- An ID that is in none of the banks has no number. -/
theorem indexOf_of_notMem (h : ∀ r ∈ a.banks, id ∉ r) : a.indexOf id = .error (.noBank id a.name) := by
  have hnone : a.banks.find? (fun r => id ∈ r) = none := by simpa using h
  rw [indexOf, hnone]

/-- An ID has a number exactly if it is between the ends of the banks; otherwise it is reported to be
in none. -/
theorem indexOf_eq_error_iff (h : Tiles first a.banks stop) {e : BadRange} :
    a.indexOf id = .error e ↔ ¬((first : Int) ≤ id ∧ id < stop) ∧ e = .noBank id a.name := by
  rw [← h.exists_mem_iff]
  constructor
  · intro he
    have hnone : ¬∃ r ∈ a.banks, id ∈ r := by
      rintro ⟨r, hr, hid⟩
      rw [indexOf_of_mem h hr hid] at he
      cases he
    rw [indexOf_of_notMem fun r hr hid => hnone ⟨r, hr, hid⟩, Except.error.injEq] at he
    exact ⟨hnone, he.symm⟩
  · rintro ⟨hnone, rfl⟩
    exact indexOf_of_notMem fun r hr hid => hnone ⟨r, hr, hid⟩

end Architecture

/-! ### The banks of a declaration -/

namespace Declaration

variable {d : Declaration} {generic : List String} {a : Architecture}

/-- The banks of an architecture are the declared ones, and the number of a register leads back to its
ID. -/
structure Numbers (d : Declaration) (a : Architecture) : Prop where
  /-- The banks have as many IDs as they are declared with, in the order of the declaration. -/
  sizes : a.banks.map (fun r => (r.size : Int)) = d.banks.map (·.count)
  base_eq : (a.registerRange.base : Int) = d.registerBase
  /-- They follow each other without a gap, from the base of the registers to their end. -/
  tiles : Tiles a.registerRange.base a.banks a.registerRange.stop
  /-- So an ID is in one bank if it is in the range of the registers, and else in none. -/
  countP_mem : ∀ id : Int,
    a.banks.countP (fun r => id ∈ r) = if id ∈ a.registerRange then 1 else 0
  /-- An ID has no number exactly if it is not in the range of the registers. -/
  indexOf_outside : ∀ (id : Int) e,
    a.indexOf id = .error e ↔ id ∉ a.registerRange ∧ e = .noBank id a.name
  /-- Otherwise its number is below the count of its bank, and with the stem of the bank it makes the
  name of the ID. -/
  indexOf_inside : ∀ id : Int, id ∈ a.registerRange → ∃ j b r i, d.HasRegister j b i ∧
    a.banks[j]? = some r ∧ id ∈ r ∧ a.indexOf id = .ok (i : Int) ∧
    a.registers.idOf (b.stem ++ toString i) = .ok id
  /-- What a name stands for has a number. -/
  indexOf_idOf : ∀ name id, a.registers.idOf name = .ok id → ∃ i : Nat, a.indexOf id = .ok (i : Int)
  /-- In particular this holds of the names that are listed. -/
  indexOf_name : ∀ name ∈ a.registers.names, ∃ id, ∃ i : Nat,
    a.registers.idOf name = .ok id ∧ a.indexOf id = .ok (i : Int)

/-- The ranges of the banks have the sizes that are declared. -/
theorem map_size_bankRanges (first : Int) {banks : List Bank} (h : ∀ b ∈ banks, 0 ≤ b.count) :
    (bankRanges first banks).map (fun r => (r.size : Int)) = banks.map (·.count) := by
  induction banks generalizing first with
  | nil => rfl
  | cons b rest ih =>
    rw [List.forall_mem_cons] at h
    rw [bankRanges, List.map_cons, List.map_cons, ih _ h.2, Int.toNat_of_nonneg h.1]

/-- The ID of a register is in the range of its bank, at the place of its number. -/
theorem exists_bankRange (hbase : 0 ≤ d.registerBase) (hcounts : ∀ b ∈ d.banks, 0 ≤ b.count)
    {j : Nat} {b : Bank} {i : Nat} (hreg : d.HasRegister j b i) :
    ∃ r, (bankRanges d.registerBase d.banks)[j]? = some r ∧ d.bankId j i ∈ r ∧
      d.bankId j i - r.base = i := by
  obtain ⟨hb, hi⟩ := hreg
  -- the banks before it have no negative number of registers
  have hbefore : 0 ≤ registerTotal (d.banks.take j) := by
    rw [registerTotal_eq fun b hb => hcounts b (List.mem_of_mem_take hb)]
    exact Int.natCast_nonneg _
  have hfirst : 0 ≤ d.registerBase + registerTotal (d.banks.take j) := Int.add_nonneg hbase hbefore
  refine ⟨_, by rw [getElem?_bankRanges, hb]; rfl, ?_, ?_⟩
  · rw [IdRange.mem_toNat_iff hfirst, mem_idsFrom_iff, bankId]
    omega
  · rw [bankId, Int.toNat_of_nonneg hfirst]
    omega

/-- The banks of what a declaration is built into make up the range of its registers. -/
theorem tiles_of_build (h : (d.build generic).outcome = .ok a) :
    Tiles a.registerRange.base a.banks a.registerRange.stop := by
  obtain ⟨x, ranges, hx, -, rfl⟩ := build_eq_ok_iff.mp h
  obtain ⟨hbase, hcounts, -, -, -, -, -, -, rfl⟩ := buildRegisters_eq_ok_iff.mp hx
  exact tiles_bankRanges hbase hcounts

/-- An ID of the range of the registers has the number of its register. -/
theorem exists_indexOf (h : (d.build generic).outcome = .ok a) {id : Int} (hid : id ∈ a.registerRange) :
    ∃ j b r i, d.HasRegister j b i ∧ a.banks[j]? = some r ∧ id ∈ r ∧ a.indexOf id = .ok (i : Int) ∧
      a.registers.idOf (b.stem ++ toString i) = .ok id := by
  have hdescribes := describes_of_build h
  have htiles := tiles_of_build h
  obtain ⟨j, b, i, hreg, rfl⟩ := (hdescribes.mem_range_iff id).mp hid
  obtain ⟨x, ranges, hx, -, rfl⟩ := build_eq_ok_iff.mp h
  obtain ⟨hbase, hcounts, -, -, -, -, -, -, rfl⟩ := buildRegisters_eq_ok_iff.mp hx
  obtain ⟨r, hr, hmem, hoffset⟩ := exists_bankRange hbase hcounts hreg
  have hindex := Architecture.indexOf_of_mem htiles (List.mem_of_getElem? hr) hmem
  rw [hoffset] at hindex
  exact ⟨j, b, r, i, hreg, hr, hmem, hindex, hdescribes.idOf_numbered j b i hreg⟩

/-- A name that is listed stands for an ID. -/
theorem exists_idOf_of_mem_names (h : (d.build generic).outcome = .ok a) {name : String}
    (hname : name ∈ a.registers.names) : ∃ id, a.registers.idOf name = .ok id := by
  obtain ⟨x, ranges, hx, -, rfl⟩ := build_eq_ok_iff.mp h
  obtain ⟨given, hrows⟩ := rowsOf_of_buildRegisters hx
  -- what is listed are keys, and a key stands for the ID of its row
  obtain ⟨e, he, rfl⟩ := List.mem_map.mp hname
  exact ⟨e.2, Lexicon.idOf_eq_ok_iff.mpr (hrows.normal.idOf?_of_mem he)⟩

/-- What a declaration is built into has numbers that lead back to IDs. -/
theorem numbers_of_build (h : (d.build generic).outcome = .ok a) : d.Numbers a := by
  have hdescribes := describes_of_build h
  have htiles := tiles_of_build h
  have hnamed : ∀ name id, a.registers.idOf name = .ok id → ∃ i : Nat, a.indexOf id = .ok (i : Int) := by
    intro name id hname
    obtain ⟨-, -, -, i, -, -, -, hindex, -⟩ := exists_indexOf h (hdescribes.idOf_mem name id hname)
    exact ⟨i, hindex⟩
  exact
    { sizes := by
        obtain ⟨x, ranges, hx, -, rfl⟩ := build_eq_ok_iff.mp h
        obtain ⟨-, hcounts, -, -, -, -, -, -, rfl⟩ := buildRegisters_eq_ok_iff.mp hx
        exact map_size_bankRanges _ hcounts
      base_eq := hdescribes.range_eq.1
      tiles := htiles
      countP_mem := by
        intro id
        split
        · next hid => exact htiles.countP_mem hid
        · next hid =>
          rw [List.countP_eq_zero]
          intro r hr hmem
          exact hid (htiles.exists_mem_iff.mp ⟨r, hr, of_decide_eq_true hmem⟩)
      indexOf_outside := fun _ _ => Architecture.indexOf_eq_error_iff htiles
      indexOf_inside := fun _ hid => exists_indexOf h hid
      indexOf_idOf := hnamed
      indexOf_name := by
        intro name hname
        obtain ⟨id, hid⟩ := exists_idOf_of_mem_names h hname
        obtain ⟨i, hindex⟩ := hnamed name id hid
        exact ⟨id, i, hid, hindex⟩ }

end Declaration

namespace Provider

/-- **Numbers in banks and IDs lead to each other.**  The banks of an architecture that was built make
up the range of its registers in the order of the declaration, whatever their counts; an ID of the
range has the number that makes the name of the ID with the stem of its bank, an ID outside of it has
none, and every name leads to an ID with a number. -/
theorem registers_numbered {d : Declaration} {generic : List String} {a : Architecture}
    (h : (build generic { declaration := d }).2.outcome = .ok a) : d.Numbers a :=
  Declaration.numbers_of_build (build_of_fresh h)

/-- An empty bank between two others and one after them. -/
theorem registers_numbered_around_empty :
    ∃ a, (build [] { declaration :=
        ⟨"x", 7, [⟨"r", 2, false⟩, ⟨"s", 0, false⟩, ⟨"f", 3, true⟩, ⟨"g", 0, true⟩],
          [("fa", "f0"), ("fb", "f1"), ("fc", "f2")], 0, []⟩ }).2.outcome = .ok a ∧
      Declaration.Numbers
        ⟨"x", 7, [⟨"r", 2, false⟩, ⟨"s", 0, false⟩, ⟨"f", 3, true⟩, ⟨"g", 0, true⟩],
          [("fa", "f0"), ("fb", "f1"), ("fc", "f2")], 0, []⟩ a := by
  obtain ⟨a, ha⟩ : ∃ a, (build [] { declaration :=
      ⟨"x", 7, [⟨"r", 2, false⟩, ⟨"s", 0, false⟩, ⟨"f", 3, true⟩, ⟨"g", 0, true⟩],
        [("fa", "f0"), ("fb", "f1"), ("fc", "f2")], 0, []⟩ }).2.outcome = .ok a := ⟨_, rfl⟩
  exact ⟨a, ha, registers_numbered ha⟩

end Provider

end IsaNames
