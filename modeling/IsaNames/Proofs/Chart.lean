import IsaNames.Holding

/-!
# Charts find what a plain scan finds

A chart is searched by halving, and only the last holding with a base up to the ID is looked at.
That is right because holdings that were handed out are apart: then the bases and the ends of those
that are not empty come in the same order.

## Main definitions

* `Apart` — no two holdings of a list have ranges that overlap.
* `scan` — the first holding of a list that contains an ID.

## Main results

* `Apart.countP_mem_le_one` — an ID belongs to at most one of several holdings.
* `Chart.pairwise_stop_le` — the items of a chart follow each other without overlapping.
* `Chart.upperBound_spec` — halving finds the number of bases up to an ID.
* `Chart.find?_ofList` — **a chart of holdings that are apart answers as the scan does.**
-/

namespace IsaNames

/-! ### Ranges -/

namespace IdRange

theorem overlaps_iff {a b : IdRange} :
    a.overlaps b = true ↔ a.base < b.stop ∧ b.base < a.stop := by
  simp [overlaps]

/-- It does not matter which of two ranges is asked about the other one. -/
theorem overlaps_comm (a b : IdRange) : a.overlaps b = b.overlaps a := by
  unfold overlaps
  rw [Bool.and_comm]

theorem overlaps_false_symm {a b : IdRange} (h : a.overlaps b = false) : b.overlaps a = false := by
  rw [overlaps_comm]
  exact h

/-- Ranges that do not overlap have no ID in common. -/
theorem notMem_of_mem {a b : IdRange} {id : Int} (h : a.overlaps b = false) (ha : id ∈ a) :
    id ∉ b := by
  intro hb
  rw [mem_iff] at ha hb
  have hab : a.overlaps b = true := by
    rw [overlaps_iff, stop, stop]
    omega
  rw [h] at hab
  cases hab

/-- Of ranges that do not overlap, the one with the lower base stops before the other one begins, unless
that one is empty. -/
theorem stop_le_base {a b : IdRange} (h : a.overlaps b = false) (hle : a.base ≤ b.base)
    (hb : b.size ≠ 0) : a.stop ≤ b.base := by
  rw [← Bool.not_eq_true, overlaps_iff, stop, stop] at h
  rw [stop]
  omega

/-- A range with an ID in it is not empty. -/
theorem size_ne_zero_of_mem {r : IdRange} {id : Int} (h : id ∈ r) : r.size ≠ 0 := by
  rw [mem_iff] at h
  omega

end IdRange

/-! ### Holdings that are apart -/

variable {ε : Type}

/-- No two of the holdings have ranges that overlap. -/
def Apart (holdings : List (Holding ε)) : Prop :=
  holdings.Pairwise fun a b => a.range.overlaps b.range = false

/-- The first holding of a list that contains an ID. -/
def scan (holdings : List (Holding ε)) (id : Int) : Option (Holding ε) :=
  holdings.find? fun h => id ∈ h.range

theorem apart_nil : Apart ([] : List (Holding ε)) := List.Pairwise.nil

/-- A holding that overlaps none of those that are there may be added. -/
theorem Apart.concat {holdings : List (Holding ε)} (ha : Apart holdings) {h : Holding ε}
    (hh : ∀ k ∈ holdings, k.range.overlaps h.range = false) : Apart (holdings ++ [h]) := by
  rw [Apart, List.pairwise_append]
  refine ⟨ha, List.pairwise_singleton _ _, ?_⟩
  intro k hk h' hh'
  rw [List.mem_singleton] at hh'
  rw [hh']
  exact hh k hk

/-- An ID belongs to at most one of several holdings. -/
theorem Apart.countP_mem_le_one {holdings : List (Holding ε)} (ha : Apart holdings) (id : Int) :
    holdings.countP (fun h => id ∈ h.range) ≤ 1 := by
  induction holdings with
  | nil => simp
  | cons h rest ih =>
    rw [Apart, List.pairwise_cons] at ha
    by_cases hid : id ∈ h.range
    · have hrest : rest.countP (fun k => id ∈ k.range) = 0 := by
        rw [List.countP_eq_zero]
        intro k hk
        simpa using IdRange.notMem_of_mem (ha.1 k hk) hid
      simp [hid, hrest]
    · simpa [List.countP_cons, hid] using ih ha.2

/-- The scan finds exactly the holding that contains the ID. -/
theorem Apart.scan_eq_some_iff {holdings : List (Holding ε)} (ha : Apart holdings) {id : Int}
    {h : Holding ε} : scan holdings id = some h ↔ h ∈ holdings ∧ id ∈ h.range := by
  constructor
  · intro hs
    exact ⟨List.mem_of_find?_eq_some hs, by simpa using List.find?_some hs⟩
  · rintro ⟨hmem, hid⟩
    induction holdings with
    | nil => cases hmem
    | cons k rest ih =>
      rw [Apart, List.pairwise_cons] at ha
      rcases List.mem_cons.mp hmem with rfl | hmem
      · simp [scan, hid]
      · have hk : id ∉ k.range :=
          IdRange.notMem_of_mem (IdRange.overlaps_false_symm (ha.1 h hmem)) hid
        simpa [scan, hk] using ih ha.2 hmem

theorem scan_eq_none_iff {holdings : List (Holding ε)} {id : Int} :
    scan holdings id = none ↔ ∀ h ∈ holdings, id ∉ h.range := by
  simp [scan]

/-! ### Charts -/

namespace Chart

/-- **Halving finds the number of bases up to an ID.**  Before the place that is found the bases are
at most the ID, and from there on they are above it. -/
theorem upperBound_spec {items : Array (Holding ε)} (id : Int)
    (hsorted : items.toList.Pairwise fun a b => a.range.base ≤ b.range.base)
    (lo hi : Nat) (h : hi ≤ items.size) (hle : lo ≤ hi)
    (hlow : ∀ j (_ : j < items.size), j < lo → (items[j].range.base : Int) ≤ id)
    (hhigh : ∀ j (_ : j < items.size), hi ≤ j → id < (items[j].range.base : Int)) :
    upperBound items id lo hi h ≤ items.size ∧
      (∀ j (_ : j < items.size), j < upperBound items id lo hi h →
        (items[j].range.base : Int) ≤ id) ∧
      (∀ j (_ : j < items.size), upperBound items id lo hi h ≤ j →
        id < (items[j].range.base : Int)) := by
  have hmono : ∀ i j (_ : i < items.size) (_ : j < items.size), i ≤ j →
      items[i].range.base ≤ items[j].range.base := by
    intro i j hi hj hij
    rcases Nat.eq_or_lt_of_le hij with rfl | hlt
    · exact Nat.le_refl _
    · exact List.pairwise_iff_getElem.mp hsorted i j hi hj hlt
  fun_induction upperBound items id lo hi h with
  | case1 lo hi h hlt mid hmid hcmp ih =>
    -- the base in the middle is above the ID, and so are all after it
    refine ih (by omega) hlow ?_
    intro j hj hmj
    have := hmono mid j hmid hj hmj
    omega
  | case2 lo hi h hlt mid hmid hcmp ih =>
    -- the base in the middle is at most the ID, and so are all before it
    refine ih (by omega) ?_ hhigh
    intro j hj hjm
    have := hmono j mid hj hmid (by omega)
    omega
  | case3 lo hi h hlt =>
    refine ⟨by omega, hlow, ?_⟩
    intro j hj hlj
    exact hhigh j hj (by omega)

/-- The items of a chart are the holdings that are not empty. -/
theorem mem_items_ofList {holdings : List (Holding ε)} {h : Holding ε} :
    h ∈ (ofList holdings).toList ↔ h ∈ holdings ∧ h.range.size ≠ 0 := by
  simp [ofList, toList]

/-- The items of a chart are in the order of their bases. -/
theorem pairwise_base_le (holdings : List (Holding ε)) :
    (ofList holdings).toList.Pairwise fun a b => a.range.base ≤ b.range.base := by
  have h : ((holdings.filter fun h => h.range.size != 0).mergeSort
      fun a b => a.range.base ≤ b.range.base).Pairwise
        fun a b => decide (a.range.base ≤ b.range.base) = true := by
    apply List.pairwise_mergeSort
    · intro a b c hab hbc
      simp only [decide_eq_true_eq] at *
      omega
    · intro a b
      simp only [Bool.or_eq_true, decide_eq_true_eq]
      omega
  simpa [ofList, toList] using h

/-- The items of a chart of holdings that are apart are apart. -/
theorem apart_toList {holdings : List (Holding ε)} (ha : Apart holdings) :
    Apart (ofList holdings).toList := by
  have hfilter : Apart (holdings.filter fun h => h.range.size != 0) := ha.filter _
  have hperm := List.mergeSort_perm (holdings.filter fun h => h.range.size != 0)
    fun a b => a.range.base ≤ b.range.base
  exact (hperm.pairwise_iff IdRange.overlaps_false_symm).mpr hfilter

/-- Each item of such a chart stops before the next one begins. -/
theorem pairwise_stop_le {holdings : List (Holding ε)} (ha : Apart holdings) :
    (ofList holdings).toList.Pairwise fun a b => a.range.stop ≤ b.range.base := by
  refine ((pairwise_base_le holdings).and (apart_toList ha)).imp_of_mem ?_
  rintro a b - hb ⟨hle, hapart⟩
  exact IdRange.stop_le_base hapart hle (mem_items_ofList.mp hb).2

/-- What a chart finds is one of its holdings and contains the ID. -/
theorem mem_of_find?_eq_some {c : Chart ε} {id : Int} {h : Holding ε}
    (hf : c.find? id = some h) : h ∈ c.toList ∧ id ∈ h.range := by
  unfold find? at hf
  split at hf
  · cases hf
  · rw [Option.filter_eq_some_iff] at hf
    exact ⟨Array.mem_toList_iff.mpr (Array.mem_of_getElem? hf.1), by simpa using hf.2⟩

/-- The item that contains an ID is the last one with a base up to it: a later one would begin inside
it. -/
theorem upperBound_eq_succ {items : Array (Holding ε)} {id : Int}
    (hsorted : items.toList.Pairwise fun a b => a.range.base ≤ b.range.base)
    (hapart : Apart items.toList) (hfull : ∀ h ∈ items.toList, h.range.size ≠ 0)
    {j : Nat} (hj : j < items.size) (hid : id ∈ items[j].range) :
    upperBound items id 0 items.size (Nat.le_refl _) = j + 1 := by
  obtain ⟨hk, hlow, hhigh⟩ := upperBound_spec id hsorted 0 items.size (Nat.le_refl _)
    (Nat.zero_le _) (by omega) (by omega)
  generalize upperBound items id 0 items.size (Nat.le_refl _) = k at hk hlow hhigh
  have hmem := IdRange.mem_iff.mp hid
  have hjk : j < k := by
    rcases Nat.lt_or_ge j k with hjk | hkj
    · exact hjk
    · have := hhigh j hj hkj
      omega
  obtain ⟨i, rfl⟩ : ∃ i, k = i + 1 := ⟨k - 1, by omega⟩
  rcases Nat.eq_or_lt_of_le (Nat.le_of_lt_succ hjk) with rfl | hij
  · rfl
  -- otherwise item `j` stops before the item in front of the place that was found begins
  have hi : i < items.size := by omega
  have hbase := hlow i hi (Nat.lt_succ_self i)
  have hle : items[j].range.base ≤ items[i].range.base :=
    List.pairwise_iff_getElem.mp hsorted j i hj hi hij
  have hsize : items[i].range.size ≠ 0 := hfull _ (Array.mem_toList_iff.mpr (Array.getElem_mem hi))
  have hnot : items[j].range.overlaps items[i].range = false :=
    List.pairwise_iff_getElem.mp hapart j i hj hi hij
  have hstop := IdRange.stop_le_base hnot hle hsize
  rw [IdRange.stop] at hstop
  omega

/-- A chart finds the holding that contains the ID. -/
theorem find?_eq_some_of_mem {holdings : List (Holding ε)} (ha : Apart holdings) {id : Int}
    {h : Holding ε} (hmem : h ∈ holdings) (hid : id ∈ h.range) :
    (ofList holdings).find? id = some h := by
  have hitem : h ∈ (ofList holdings).toList :=
    mem_items_ofList.mpr ⟨hmem, IdRange.size_ne_zero_of_mem hid⟩
  obtain ⟨j, hj, rfl⟩ := List.getElem_of_mem hitem
  have hk := upperBound_eq_succ (pairwise_base_le holdings) (apart_toList ha)
    (fun h hh => (mem_items_ofList.mp hh).2) hj hid
  have hj' : (ofList holdings).items[j]? = some (ofList holdings).toList[j] :=
    Array.getElem?_eq_getElem hj
  rw [find?, hk]
  simp only [hj', Option.filter_some, hid, decide_true, if_true]

/-- **A chart of holdings that are apart answers as the scan does.** -/
theorem find?_ofList {holdings : List (Holding ε)} (ha : Apart holdings) (id : Int) :
    (ofList holdings).find? id = scan holdings id := by
  cases hs : scan holdings id with
  | some h =>
    obtain ⟨hmem, hid⟩ := ha.scan_eq_some_iff.mp hs
    exact find?_eq_some_of_mem ha hmem hid
  | none =>
    cases hf : (ofList holdings).find? id with
    | none => rfl
    | some h =>
      obtain ⟨hitem, hid⟩ := mem_of_find?_eq_some hf
      exact absurd hid (scan_eq_none_iff.mp hs h (mem_items_ofList.mp hitem).1)

end Chart

end IsaNames
