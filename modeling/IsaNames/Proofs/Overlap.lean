import IsaNames.Proofs.Lexicon
import IsaNames.Proofs.Space

/-!
# When ranges clash

Two ranges clash if each of them begins before the other one ends.  Ranges that are not empty do so
exactly when they have an ID in common.  An empty range has nothing in common with any other, and
yet it clashes with a range that goes on at both sides of it; at the base of a range, or where it
stops, an empty range is harmless.

## Main definitions

* `IdRange.Meets` — two ranges have an ID in common.
* `IdRange.SitsInside` — a range is empty and lies strictly inside another one.
* `IdRange.Clashes` — one of the two, either way round.

## Main results

* `IdRange.overlaps_iff_clashes` — what the test for two ranges finds.
* `SharedSpace.claim_refused_iff_clashes` — **an open space refuses exactly the ranges that clash with
  one that was handed out.**
-/

namespace IsaNames

/-! ### Two ranges -/

namespace IdRange

variable {a b : IdRange}

/-- Some ID belongs to both ranges. -/
def Meets (a b : IdRange) : Prop := ∃ id : Int, id ∈ a ∧ id ∈ b

/-- The range is empty, and the other one has IDs before it and from it on. -/
def SitsInside (a b : IdRange) : Prop := a.size = 0 ∧ b.base < a.base ∧ a.base < b.stop

/-- The ranges have an ID in common, or one of them is empty and lies strictly inside the other. -/
def Clashes (a b : IdRange) : Prop := a.Meets b ∨ a.SitsInside b ∨ b.SitsInside a

theorem notMem_of_size_eq_zero (h : a.size = 0) (id : Int) : id ∉ a := fun hid =>
  size_ne_zero_of_mem hid h

/-- Ranges that are not empty have an ID in common if each begins before the other one ends: the
larger of the two bases. -/
theorem meets_of_overlaps (ha : a.size ≠ 0) (hb : b.size ≠ 0) (h : a.overlaps b = true) :
    a.Meets b := by
  rw [overlaps_iff, stop, stop] at h
  refine ⟨((max a.base b.base : Nat) : Int), ?_, ?_⟩
  · rw [mem_iff]
    omega
  · rw [mem_iff]
    omega

theorem overlaps_of_meets (h : a.Meets b) : a.overlaps b = true := by
  obtain ⟨id, ha, hb⟩ := h
  by_contra hne
  exact notMem_of_mem (Bool.not_eq_true _ ▸ hne) ha hb

/-- An empty range overlaps exactly the ranges that it lies strictly inside. -/
theorem overlaps_iff_sitsInside (h : a.size = 0) : a.overlaps b = true ↔ a.SitsInside b := by
  rw [overlaps_iff, SitsInside, stop, stop, h, Nat.add_zero, and_iff_right rfl, and_comm]

theorem Meets.symm (h : a.Meets b) : b.Meets a := by
  obtain ⟨id, ha, hb⟩ := h
  exact ⟨id, hb, ha⟩

/-- **What the test for two ranges finds.** -/
theorem overlaps_iff_clashes : a.overlaps b = true ↔ a.Clashes b := by
  constructor
  · intro h
    by_cases ha : a.size = 0
    · exact .inr (.inl ((overlaps_iff_sitsInside ha).mp h))
    by_cases hb : b.size = 0
    · rw [overlaps_comm] at h
      exact .inr (.inr ((overlaps_iff_sitsInside hb).mp h))
    · exact .inl (meets_of_overlaps ha hb h)
  · rintro (h | h | h)
    · exact overlaps_of_meets h
    · exact (overlaps_iff_sitsInside h.1).mpr h
    · rw [overlaps_comm]
      exact (overlaps_iff_sitsInside h.1).mpr h

theorem clashes_comm (a b : IdRange) : a.Clashes b ↔ b.Clashes a := by
  rw [← overlaps_iff_clashes, overlaps_comm, overlaps_iff_clashes]

/-- With an empty range only those clash that it lies strictly inside. -/
theorem clashes_iff_of_size_eq_zero (h : a.size = 0) : a.Clashes b ↔ a.SitsInside b := by
  rw [← overlaps_iff_clashes, overlaps_iff_sitsInside h]

end IdRange

/-! ### Ranges that are asked for -/

namespace SharedSpace

open Text (leastTooLong)

variable {ε : Type}

/-- The flaw of a range that clashes with one that was handed out. -/
def overlapFlaw (category : Category) (range : IdRange) (h : Holding ε) (owner : String) : Flaw :=
  ⟨.rangesOverlap category range h.range h.owner, some owner⟩

/-- The flaw ends a computation with itself if the ends of both ranges can be written. -/
theorem fault_overlapFlaw (category : Category) (range : IdRange) (h : Holding ε) (owner : String) :
    (overlapFlaw category range h owner).fault =
      if range.stop < leastTooLong ∧ h.range.stop < leastTooLong then
        .flaw (overlapFlaw category range h owner)
      else .numberTooLong := by
  -- where the stop of a range can be written, so can the base
  have hwritable : (overlapFlaw category range h owner).cause.phrase.isWritable = true ↔
      range.stop < leastTooLong ∧ h.range.stop < leastTooLong := by
    rw [FlawCause.isWritable_phrase]
    simp only [overlapFlaw, FlawCause.numbers, List.all_cons, List.all_nil, Bool.and_true,
      Bool.and_eq_true, Text.isWritable_iff, Int.natAbs_natCast, IdRange.stop]
    omega
  unfold Flaw.fault
  simp only [hwritable]

/-- In an open space a range is checked against the holdings in their order. -/
theorem checkFree_of_isOpen {s : SharedSpace ε} (hopen : s.IsOpen) (category : Category)
    (range : IdRange) (owner : String) :
    s.checkFree category range owner =
      match (s.holdings category).find? fun h => h.range.overlaps range with
      | some h => .error (overlapFlaw category range h owner)
      | none => .ok () := by
  unfold checkFree
  rw [checkOpen_eq_ok_iff.mpr hopen]
  rfl

/-- How a space treats a range that is asked for: it is refused exactly if it clashes with one that
was handed out. -/
structure RefusesClashes (s : SharedSpace ε) (category : Category) (range : IdRange)
    (owner : String) : Prop where
  accepted_iff : ∀ namer : Namer ε,
    (claim category range namer owner).Ends s (s.add category ⟨range, namer, owner⟩) (.ok ()) ↔
      ∀ h ∈ s.holdings category, ¬h.range.Clashes range
  refused_iff : ∀ namer : Namer ε, (∃ e, (claim category range namer owner).Ends s s (.error e)) ↔
    ∃ h ∈ s.holdings category, h.range.Clashes range
  /-- The flaw names a range that clashes; if an end of one of the two ranges has more digits than
  can be written, that is the fault instead. -/
  fault : ∀ (namer : Namer ε) s' e, (claim category range namer owner).Ends s s' (.error e) →
    ∃ h ∈ s.holdings category, h.range.Clashes range ∧
      e = if range.stop < leastTooLong ∧ h.range.stop < leastTooLong then
          .flaw (overlapFlaw category range h owner)
        else .numberTooLong
  /-- An empty range is refused exactly if it lies strictly inside one that was handed out. -/
  empty_refused_iff : range.size = 0 → ∀ namer : Namer ε,
    ((∃ e, (claim category range namer owner).Ends s s (.error e)) ↔
      ∃ h ∈ s.holdings category, h.range.base < range.base ∧ range.base < h.range.stop)

theorem free_iff {s : SharedSpace ε} {category : Category} {range : IdRange} :
    s.Free category range ↔ ∀ h ∈ s.holdings category, ¬h.range.Clashes range := by
  simp only [Free, ← IdRange.overlaps_iff_clashes, Bool.not_eq_true]

/-- An open space treats ranges so. -/
theorem refusesClashes {s : SharedSpace ε} (hopen : s.IsOpen) (category : Category)
    (range : IdRange) (owner : String) : s.RefusesClashes category range owner := by
  have hrefused : ∀ namer : Namer ε, (∃ e, (claim category range namer owner).Ends s s (.error e)) ↔
      ∃ h ∈ s.holdings category, h.range.Clashes range := by
    intro namer
    rw [(claim_guarded ..).exists_ends_error_iff, and_iff_right hopen, free_iff]
    push Not
    rfl
  refine ⟨?_, hrefused, ?_, ?_⟩
  · intro namer
    rw [(claim_guarded ..).ends_ok_iff, and_iff_left rfl, and_iff_right hopen, free_iff]
  · intro namer s' e hends
    -- of the holdings that clash with the range the first one is named
    cases hfind : (s.holdings category).find? fun h => h.range.overlaps range with
    | none =>
      have hfree : s.Free category range := by simpa [Free] using hfind
      have hok := (claim_guarded s category range namer owner).ends_ok_iff.mpr ⟨⟨hopen, hfree⟩, rfl⟩
      cases (hends.unique hok).2
    | some h =>
      have hcheck : s.checkFree category range owner =
          .error (overlapFlaw category range h owner) := by
        rw [checkFree_of_isOpen hopen, hfind]
      have hclash : h.range.overlaps range = true := by simpa using List.find?_some hfind
      refine ⟨h, List.mem_of_find?_eq_some hfind, IdRange.overlaps_iff_clashes.mp hclash, ?_⟩
      have he := (hends.unique (ends_claim_error hcheck namer)).2
      rw [Except.error.inj he, fault_overlapFlaw]
  · intro hempty namer
    simp only [hrefused, IdRange.clashes_comm _ range, IdRange.clashes_iff_of_size_eq_zero hempty,
      IdRange.SitsInside, hempty, true_and]

/-- **An open space refuses exactly the ranges that clash with one that was handed out**, and it does
not matter which of two ranges is asked about the other.  Ranges that are not empty clash if they
have an ID in common; an empty range clashes with those that it lies strictly inside. -/
theorem claim_refused_iff_clashes {s : SharedSpace ε} (hopen : s.IsOpen) :
    (∀ a b : IdRange, a.overlaps b = b.overlaps a ∧ (a.overlaps b = true ↔ a.Clashes b)) ∧
      ∀ category range owner, s.RefusesClashes category range owner :=
  ⟨fun a b => ⟨IdRange.overlaps_comm a b, IdRange.overlaps_iff_clashes⟩, refusesClashes hopen⟩

/-- A space with a range of ten registers and an empty one where it stops. -/
theorem claim_refused_next_to_empty :
    ∃ s : SharedSpace Unit, s.Reachable ∧ s.IsOpen ∧
      s.registers.map (·.range) = [⟨0, 10⟩, ⟨10, 0⟩] ∧
      (∀ a b : IdRange, a.overlaps b = b.overlaps a ∧ (a.overlaps b = true ↔ a.Clashes b)) ∧
      ∀ category range owner, s.RefusesClashes category range owner := by
  have hreach := ((reachable_initial (ε := Unit)).after
    (.claim .registers ⟨0, 10⟩ (.numbered "a") "a")).after
    (.claim .registers ⟨10, 0⟩ (.numbered "b") "b")
  exact ⟨_, hreach, rfl, rfl, claim_refused_iff_clashes rfl⟩

/-- An empty range strictly inside another one overlaps it and is refused for that, although the two
have no ID in common. -/
theorem empty_range_refused :
    (⟨5, 0⟩ : IdRange).overlaps ⟨0, 10⟩ = true ∧ ¬(⟨5, 0⟩ : IdRange).Meets ⟨0, 10⟩ ∧
      ∃ s : SharedSpace Unit, s.Reachable ∧ s.IsOpen ∧
        (∀ h ∈ s.registers, ¬h.range.Meets ⟨5, 0⟩) ∧
        (claim .registers ⟨5, 0⟩ (.numbered "b") "b").Ends s s
          (.error (.flaw ⟨.rangesOverlap .registers ⟨5, 0⟩ ⟨0, 10⟩ "a", some "b"⟩)) := by
  have hapart : ∀ a : IdRange, ¬a.Meets ⟨5, 0⟩ := by
    rintro a ⟨id, -, hid⟩
    exact IdRange.notMem_of_size_eq_zero rfl id hid
  refine ⟨rfl, fun h => hapart _ h.symm, ?_⟩
  have hreach := (reachable_initial (ε := Unit)).after
    (.claim .registers ⟨0, 10⟩ (.numbered "a") "a")
  have hfault : Flaw.fault ⟨.rangesOverlap .registers ⟨5, 0⟩ ⟨0, 10⟩ "a", some "b"⟩ =
      .flaw ⟨.rangesOverlap .registers ⟨5, 0⟩ ⟨0, 10⟩ "a", some "b"⟩ := by decide +kernel
  refine ⟨_, hreach, rfl, fun h _ => hapart h.range, ?_⟩
  rw [← hfault]
  exact ends_claim_error rfl _

end SharedSpace

end IsaNames
