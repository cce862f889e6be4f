import IsaNames.Architecture.Build
import IsaNames.Proofs.LowerCase
import Mathlib.Data.List.Nodup

/-!
# How registers and mnemonics are laid out

The banks of a declaration follow each other without a gap, and so do the registers of a bank and the
mnemonics.  What a declaration asks for can therefore be told without building anything.

## Main definitions

* `idsFrom` — consecutive IDs.
* `countFrom` — names with consecutive IDs.
* `Tiles first ranges stop` — ranges that follow each other without a gap.
* `layOut` — the registers of banks laid out one after the other.
* `registerCount` — how many registers the banks have.

## Main results

* `Tiles.exists_mem_iff`, `Tiles.find?_eq` — such ranges cover all IDs between their ends, each once.
* `map_id_layOut` — the registers of all banks have consecutive IDs.
* `Bank.key_ne_empty_of_mem_numbered` — a numbered name always has a key.
* `Bank.nodup_keys_numbered` — the numbered names of most banks have different keys.
-/

namespace IsaNames

/-! ### Consecutive IDs -/

/-- Consecutive IDs, `count` of them from `first` on. -/
def idsFrom (first : Int) (count : Nat) : List Int :=
  (List.range count).map fun i : Nat => first + i

theorem mem_idsFrom_iff {first id : Int} {count : Nat} :
    id ∈ idsFrom first count ↔ first ≤ id ∧ id < first + count := by
  simp only [idsFrom, List.mem_map, List.mem_range]
  constructor
  · rintro ⟨i, hi, rfl⟩
    omega
  · rintro ⟨hle, hlt⟩
    exact ⟨(id - first).toNat, by omega, by omega⟩

theorem nodup_idsFrom (first : Int) (count : Nat) : (idsFrom first count).Nodup := by
  rw [idsFrom, List.Nodup, List.pairwise_map]
  refine List.nodup_range.imp ?_
  intro i j hij
  omega

theorem idsFrom_add (first : Int) (m n : Nat) :
    idsFrom first (m + n) = idsFrom first m ++ idsFrom (first + m) n := by
  simp only [idsFrom, List.range_add, List.map_append, List.map_map, List.append_cancel_left_eq,
    List.map_inj_left, Function.comp_apply]
  intro i _
  omega

theorem idsFrom_succ (first : Int) (count : Nat) :
    idsFrom first (count + 1) = first :: idsFrom (first + 1) count := by
  rw [Nat.add_comm, idsFrom_add]
  simp [idsFrom]

/-- Names with consecutive IDs from `first` on. -/
def countFrom (first : Int) : List String → List (String × Int)
  | [] => []
  | name :: rest => (name, first) :: countFrom (first + 1) rest

@[simp] theorem map_fst_countFrom (first : Int) (names : List String) :
    (countFrom first names).map (·.1) = names := by
  induction names generalizing first with
  | nil => rfl
  | cons name rest ih => simp [countFrom, ih]

/-- What is made of the names alone does not depend on the IDs. -/
theorem map_name_countFrom {α : Type} (f : String → α) (first : Int) (names : List String) :
    (countFrom first names).map (fun row => f row.1) = names.map f := by
  have h := congrArg (List.map f) (map_fst_countFrom first names)
  rw [List.map_map] at h
  exact h

@[simp] theorem map_snd_countFrom (first : Int) (names : List String) :
    (countFrom first names).map (·.2) = idsFrom first names.length := by
  induction names generalizing first with
  | nil => rfl
  | cons name rest ih => simp [countFrom, ih, idsFrom_succ]

/-- A name that is counted has one of the IDs that are counted. -/
theorem mem_idsFrom_of_mem_countFrom {first : Int} {names : List String} {row : String × Int}
    (h : row ∈ countFrom first names) : row.2 ∈ idsFrom first names.length := by
  rw [← map_snd_countFrom]
  exact List.mem_map_of_mem h

/-! ### Ranges -/

/-- A range is impossible for its base, or else for its size. -/
theorem IdRange.make_eq_error_iff {base size : Int} {c : BadRange} :
    IdRange.make base size = .error c ↔
      base < 0 ∧ c = .negativeBase base ∨ 0 ≤ base ∧ size < 0 ∧ c = .negativeSize size := by
  unfold IdRange.make
  split
  · next hbase => simp [hbase, Int.not_le.mpr hbase, eq_comm]
  · next hbase =>
    split
    · next hsize => simp [hbase, hsize, Int.not_lt.mp hbase, eq_comm]
    · next hsize => simp [hbase, hsize]

/-- The IDs of a range are consecutive. -/
theorem IdRange.mem_iff_mem_idsFrom {id : Int} {r : IdRange} :
    id ∈ r ↔ id ∈ idsFrom r.base r.size := by
  rw [IdRange.mem_iff, mem_idsFrom_iff]

/-- A range that begins at an integer has the IDs from there on. -/
theorem IdRange.mem_toNat_iff {base id : Int} (hbase : 0 ≤ base) {size : Nat} :
    id ∈ (⟨base.toNat, size⟩ : IdRange) ↔ id ∈ idsFrom base size := by
  rw [IdRange.mem_iff_mem_idsFrom, Int.toNat_of_nonneg hbase]

theorem mem_genericRange_iff {generic : List String} {id : Int} :
    id ∈ genericRange generic ↔ 0 ≤ id ∧ id < generic.length := by
  rw [IdRange.mem_iff, genericRange, Int.natCast_zero, Int.zero_add]

/-! ### Ranges without gaps -/

/-- The ranges follow each other without a gap from the ID `first` up to the ID `stop`; empty ones
may be among them. -/
def Tiles : Nat → List IdRange → Nat → Prop
  | first, [], stop => first = stop
  | first, r :: rest, stop => r.base = first ∧ Tiles r.stop rest stop

namespace Tiles

variable {first stop : Nat} {ranges : List IdRange} {r : IdRange} {id : Int}

/-- A range that is tiled does not end before it begins. -/
theorem first_le_stop (h : Tiles first ranges stop) : first ≤ stop := by
  induction ranges generalizing first with
  | nil => exact Nat.le_of_eq h
  | cons r rest ih =>
    have hrest := ih h.2
    have hstop : r.stop = r.base + r.size := rfl
    have hbase := h.1
    omega

/-- Each of the ranges lies between the two ends. -/
theorem ends_of_mem (h : Tiles first ranges stop) (hr : r ∈ ranges) :
    first ≤ r.base ∧ r.stop ≤ stop := by
  induction ranges generalizing first with
  | nil => cases hr
  | cons r' rest ih =>
    obtain ⟨hbase, hrest⟩ := h
    rcases List.mem_cons.mp hr with rfl | hr
    · exact ⟨Nat.le_of_eq hbase.symm, hrest.first_le_stop⟩
    · have hends := ih hrest hr
      have hstop : r'.stop = r'.base + r'.size := rfl
      omega

/-- The ranges cover all that is between the two ends, and nothing else. -/
theorem exists_mem_iff (h : Tiles first ranges stop) :
    (∃ r ∈ ranges, id ∈ r) ↔ (first : Int) ≤ id ∧ id < stop := by
  constructor
  · rintro ⟨r, hr, hid⟩
    obtain ⟨hbase, hstop⟩ := h.ends_of_mem hr
    obtain ⟨hle, hlt⟩ : (r.base : Int) ≤ id ∧ id < (r.stop : Int) := hid
    omega
  · rintro ⟨hle, hlt⟩
    induction ranges generalizing first with
    | nil =>
      have hend : first = stop := h
      omega
    | cons r rest ih =>
      obtain ⟨hbase, hrest⟩ := h
      by_cases hid : id < (r.stop : Int)
      · exact ⟨r, List.mem_cons_self .., by rw [hbase]; exact hle, hid⟩
      · obtain ⟨r', hr', hmem⟩ := ih hrest (Int.not_lt.mp hid)
        exact ⟨r', List.mem_cons_of_mem _ hr', hmem⟩

/-- Each ID between the two ends is in one of the ranges only. -/
theorem countP_mem (h : Tiles first ranges stop) (hid : (first : Int) ≤ id ∧ id < stop) :
    ranges.countP (fun r => id ∈ r) = 1 := by
  induction ranges generalizing first with
  | nil =>
    have hend : first = stop := h
    omega
  | cons r rest ih =>
    obtain ⟨hbase, hrest⟩ := h
    by_cases hlt : id < (r.stop : Int)
    · -- the ranges after this one begin too late
      have hmem : id ∈ r := ⟨by rw [hbase]; exact hid.1, hlt⟩
      have hnone : rest.countP (fun r => id ∈ r) = 0 := by
        rw [List.countP_eq_zero]
        intro r' hr'
        have hends := hrest.ends_of_mem hr'
        rw [decide_eq_true_eq]
        rintro ⟨hle, -⟩
        omega
      rw [List.countP_cons_of_pos (by simpa using hmem), hnone]
    · have hnot : id ∉ r := fun hmem => hlt hmem.2
      rw [List.countP_cons_of_neg (by simpa using hnot)]
      exact ih hrest ⟨Int.not_lt.mp hlt, hid.2⟩

/-- Searching from the front finds the range that has the ID: the ones before it end too early. -/
theorem find?_eq (h : Tiles first ranges stop) (hr : r ∈ ranges) (hid : id ∈ r) :
    ranges.find? (fun r => id ∈ r) = some r := by
  induction ranges generalizing first with
  | nil => cases hr
  | cons r' rest ih =>
    rcases List.mem_cons.mp hr with rfl | hr
    · exact List.find?_cons_of_pos (decide_eq_true hid)
    · have hends := h.2.ends_of_mem hr
      have hnot : id ∉ r' := by
        rintro ⟨-, hlt⟩
        have hle : (r.base : Int) ≤ id := hid.1
        omega
      rw [List.find?_cons_of_neg (by simpa using hnot)]
      exact ih h.2 hr

end Tiles

/-! ### Banks -/

/-- How many registers banks have, where a negative count is none. -/
def registerCount : List Bank → Nat
  | [] => 0
  | bank :: rest => bank.count.toNat + registerCount rest

/-- The registers of banks that are laid out one after the other from the ID `first` on. -/
def layOut (first : Int) : List Bank → List Numbered
  | [] => []
  | bank :: rest => bank.numbered first ++ layOut (first + bank.count) rest

/-- The ranges of banks that are laid out one after the other from the ID `first` on. -/
def bankRanges (first : Int) : List Bank → List IdRange
  | [] => []
  | bank :: rest => ⟨first.toNat, bank.count.toNat⟩ :: bankRanges (first + bank.count) rest

/-- The numbers of all banks add up to the number of registers if none is negative. -/
theorem registerTotal_eq {banks : List Bank} (h : ∀ b ∈ banks, 0 ≤ b.count) :
    registerTotal banks = (registerCount banks : Int) := by
  induction banks with
  | nil => rfl
  | cons b rest ih =>
    rw [List.forall_mem_cons] at h
    have hrest := ih h.2
    rw [registerTotal, registerCount]
    omega

/-- The ranges of banks leave no gap. -/
theorem tiles_bankRanges {first : Int} (hfirst : 0 ≤ first) {banks : List Bank}
    (h : ∀ b ∈ banks, 0 ≤ b.count) :
    Tiles first.toNat (bankRanges first banks) (first.toNat + registerCount banks) := by
  induction banks generalizing first with
  | nil => rfl
  | cons b rest ih =>
    rw [List.forall_mem_cons] at h
    have hrest := ih (Int.add_nonneg hfirst h.1) h.2
    rw [Int.toNat_add hfirst h.1, Nat.add_assoc] at hrest
    exact ⟨rfl, hrest⟩

/-- The range of a bank begins after the registers of the banks before. -/
theorem getElem?_bankRanges (first : Int) (banks : List Bank) (j : Nat) :
    (bankRanges first banks)[j]? = banks[j]?.map fun b =>
      ⟨(first + registerTotal (banks.take j)).toNat, b.count.toNat⟩ := by
  induction banks generalizing first j with
  | nil => rfl
  | cons b rest ih =>
    cases j with
    | zero => simp [bankRanges, registerTotal]
    | succ j =>
      rw [bankRanges, List.getElem?_cons_succ, List.getElem?_cons_succ, ih, List.take_succ_cons,
        registerTotal, Int.add_assoc]

theorem Bank.numbered_eq (b : Bank) (first : Int) :
    b.numbered first = (List.range b.count.toNat).map fun i : Nat =>
      ⟨first + i, b.stem ++ toString i, b.showsConvention⟩ := by
  apply List.ext_getElem
  · simp [Bank.numbered, Bank.names]
  · intro i h₁ h₂
    simp [Bank.numbered, Bank.names]

@[simp] theorem Bank.map_id_numbered (b : Bank) (first : Int) :
    (b.numbered first).map (·.id) = idsFrom first b.count.toNat := by
  simp [Bank.numbered_eq, idsFrom]

/-- The registers of all banks have consecutive IDs. -/
theorem map_id_layOut (first : Int) {banks : List Bank} (h : ∀ b ∈ banks, 0 ≤ b.count) :
    (layOut first banks).map (·.id) = idsFrom first (registerCount banks) := by
  induction banks generalizing first with
  | nil => rfl
  | cons b rest ih =>
    rw [List.forall_mem_cons] at h
    have hcount : (b.count.toNat : Int) = b.count := Int.toNat_of_nonneg h.1
    have hsum : registerCount (b :: rest) = b.count.toNat + registerCount rest := rfl
    rw [layOut, List.map_append, Bank.map_id_numbered, ih _ h.2, hsum, idsFrom_add, hcount]

/-- A numbered name always has a key. -/
theorem Bank.key_ne_empty_of_mem_numbered {foldCase : Bool} {b : Bank} {first : Int} {r : Numbered}
    (h : r ∈ b.numbered first) : Text.key foldCase r.name ≠ "" := by
  rw [Bank.numbered_eq] at h
  obtain ⟨i, -, rfl⟩ := List.mem_map.mp h
  exact Text.key_append_toString_ne_empty foldCase b.stem i

/-- So it has in any of several banks. -/
theorem key_ne_empty_of_mem_layOut {foldCase : Bool} {first : Int} {banks : List Bank}
    {r : Numbered} (h : r ∈ layOut first banks) : Text.key foldCase r.name ≠ "" := by
  induction banks generalizing first with
  | nil => cases h
  | cons b rest ih =>
    rcases List.mem_append.mp h with h | h
    · exact Bank.key_ne_empty_of_mem_numbered h
    · exact ih h

/-- The numbered names of a bank have different keys if its stem is of settled characters. -/
theorem Bank.nodup_keys_numbered {b : Bank}
    (hstem : ∀ c ∈ b.stem.toList, Text.IsSettled c ∧ Text.isBlank c = false) (first : Int) :
    ((b.numbered first).map fun r => Text.key true r.name).Nodup := by
  rw [numbered_eq, List.map_map]
  refine List.Nodup.map ?_ List.nodup_range
  intro i j hij
  simp only [Function.comp_apply, Text.key_append_toString hstem] at hij
  -- the number can be read off the name
  have hrepr : Nat.repr i = Nat.repr j := (String.append_right_inj _).mp hij
  have hdigits : Nat.toDigits 10 i = Nat.toDigits 10 j := by
    rw [← Nat.toList_repr, ← Nat.toList_repr, hrepr]
  simpa [Nat.ofDigitChars_toDigits] using congrArg (Nat.ofDigitChars 10 · 0) hdigits

end IsaNames
