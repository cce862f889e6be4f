import IsaNames.Proofs.Permanence
import IsaNames.Proofs.Writes

/-!
# Ranges that are complete

A range of IDs is complete if each of them is shown by a name.  The check for this goes through the range
from its base and stops at the first gap.  It writes nothing, so it may be made at any time, and what it
finds complete stays complete, because IDs do not lose their names.

## Main definitions

* `Lexicon.FirstGap` — the first ID of a range that is shown by no name.
* `Draft.ChecksRange` — what the check for completeness of a range tells, and for how long.

## Main results

* `Lexicon.firstUnnamed?_range_eq_some_iff` — the search finds the first gap.
* `Draft.range_checked` — **the check fails exactly at a gap, tells the first one, and lasts.**
-/

namespace IsaNames.Lexicon

open Text (leastTooLong)

/-- The first ID of a range that is shown by no name. -/
structure FirstGap (x : Lexicon) (range : IdRange) (id : Int) : Prop where
  mem : id ∈ range
  hasDisplay_eq : x.hasDisplay id = false
  shown_of_lt : ∀ id' ∈ range, id' < id → x.hasDisplay id' = true

/-- **The search through a range finds its first gap.** -/
theorem firstUnnamed?_range_eq_some_iff {x : Lexicon} {range : IdRange} {id : Int} :
    x.firstUnnamed? range.size range.base = some id ↔ x.FirstGap range id := by
  simp only [firstUnnamed?_eq_some_iff, ← IdRange.mem_iff_mem_idsFrom]
  constructor
  · rintro ⟨hid, hgap, hbefore⟩
    exact ⟨hid, hgap, hbefore⟩
  · rintro ⟨hid, hgap, hbefore⟩
    exact ⟨hid, hgap, hbefore⟩

namespace Draft

variable {d : Draft} {range : IdRange}

/-- A range is refused at its first gap, and for nothing else. -/
theorem refuses_validate_iff {cause : FlawCause} : d.Refuses (.validate range) cause ↔
    ∃ id, d.content.FirstGap range id ∧
      cause = .unnamed d.content.kind id (id - range.base) range := by
  constructor
  · intro h
    cases h with
    | closed _ hwrite => cases hwrite
    | incomplete hid => exact ⟨_, firstUnnamed?_range_eq_some_iff.mp hid, rfl⟩
  · rintro ⟨id, hid, rfl⟩
    exact .incomplete (firstUnnamed?_range_eq_some_iff.mpr hid)

/-- A gap ends the check with what is wrong, unless the end of the range is too long to be written. -/
theorem fault_unnamed {id : Int} (hid : id ∈ range) :
    (d.flaw (.unnamed d.content.kind id (id - range.base) range)).fault =
      if range.stop < leastTooLong then
        .flaw (d.flaw (.unnamed d.content.kind id (id - range.base) range))
      else .numberTooLong := by
  -- all other numbers of the message are smaller than the end of the range
  have hwritable : (FlawCause.unnamed d.content.kind id (id - range.base) range).phrase.isWritable =
      decide (range.stop < leastTooLong) := by
    rw [IdRange.mem_iff] at hid
    have hstop : range.stop = range.base + range.size := rfl
    rw [FlawCause.isWritable_phrase, Bool.eq_iff_iff, decide_eq_true_eq]
    simp only [FlawCause.numbers, List.all_cons, List.all_nil, Bool.and_true, Bool.and_eq_true,
      Text.isWritable_iff]
    omega
  rw [Flaw.fault, flaw, hwritable]
  simp only [decide_eq_true_eq]

/-- The check succeeds exactly if the range is complete. -/
theorem outcome_validate_eq_ok_iff : (perform (.validate range) d).2.outcome = .ok .done ↔
    ∀ id ∈ range, d.content.hasDisplay id = true := by
  rw [← requireDisplays_eq_ok_iff, outcome_perform_validate, Except.map_eq_ok_iff]
  simp only [Except.mapError_eq_ok_iff, and_true]
  constructor
  · rintro ⟨⟨⟩, h⟩
    exact h
  · intro h
    exact ⟨(), h⟩

/-- What the check for completeness of a range tells about a draft, and for how long. -/
structure ChecksRange (d : Draft) (range : IdRange) : Prop where
  /-- It succeeds exactly if every ID of the range is shown by a name. -/
  ok_iff : (perform (.validate range) d).2.outcome = .ok .done ↔
    ∀ id ∈ range, d.content.hasDisplay id = true
  /-- Otherwise it fails: with the flaw of the first gap and its place in the range, if the end of the
  range is not too long to be written. -/
  error_iff : ∀ e, (perform (.validate range) d).2.outcome = .error e ↔
    ∃ id offset, d.content.FirstGap range id ∧ range.offset id = .ok offset ∧
      e = if range.stop < leastTooLong then
        .flaw ⟨.unnamed d.content.kind id offset range, d.content.owner⟩ else .numberTooLong
  /-- There is a gap, then. -/
  fails_iff : d.Fails (.validate range) ↔ ∃ id ∈ range, d.content.hasDisplay id = false
  /-- The flaw names the ID and its place. -/
  message_eq : ∀ id offset : Int, (FlawCause.unnamed d.content.kind id offset range).message =
    d.content.kind ++ " " ++ toString id ++ " (posición " ++ toString offset ++ " de " ++
      ("[" ++ toString (range.base : Int) ++ ", " ++ toString (range.stop : Int) ++ ")") ++
      ") sin nombre canónico"
  after_eq : d.after (.validate range) = d
  /-- Whatever is called later, it keeps succeeding, for the range and for all that lie in it. -/
  stays : (perform (.validate range) d).2.outcome = .ok .done → ∀ later (sub : IdRange),
    (∀ id ∈ sub, id ∈ range) → (perform (.validate sub) (d.run later)).2.outcome = .ok .done

/-- **The check for completeness fails exactly at a gap.**  It tells the first one, it leaves the draft
as it is, and what it has found complete stays complete. -/
theorem range_checked (d : Draft) (range : IdRange) : d.ChecksRange range where
  ok_iff := outcome_validate_eq_ok_iff
  error_iff := by
    intro e
    constructor
    · intro he
      obtain ⟨cause, hcause⟩ := fails_iff.mp ⟨e, he⟩
      rw [hcause.ends.2, Except.error.injEq] at he
      obtain ⟨id, hid, rfl⟩ := refuses_validate_iff.mp hcause
      refine ⟨id, id - range.base, hid, if_pos hid.mem, ?_⟩
      rw [← he, fault_unnamed hid.mem]
      rfl
    · rintro ⟨id, offset, hid, hoffset, rfl⟩
      have hoffset' : range.offset id = .ok (id - range.base) := if_pos hid.mem
      rw [hoffset', Except.ok.injEq] at hoffset
      subst hoffset
      rw [(refuses_validate_iff.mpr ⟨id, hid, rfl⟩).ends.2, fault_unnamed hid.mem]
      rfl
  fails_iff := by
    have hfails : d.Fails (.validate range) ↔ ¬∀ id ∈ range, d.content.hasDisplay id = true := by
      rw [← requireDisplays_eq_ok_iff, fails_iff_not_accepts, not_iff_not]
      constructor
      · rintro ⟨d', r, ⟨⟩⟩
        assumption
      · intro h
        exact ⟨d, .done, .validate h⟩
    rw [hfails]
    simp
  message_eq := fun _ _ => rfl
  after_eq := rfl
  stays := by
    intro hok later sub hsub
    rw [outcome_validate_eq_ok_iff] at hok ⊢
    exact fun id hid => (grows_run d later).hasDisplay (hok id (hsub id hid))

/-- No name at all, and a range whose end is too long to be written. -/
theorem gap_unwritable :
    let d := empty Miss.register registerFallback true none
    let range : IdRange := ⟨leastTooLong - 1, 1⟩
    (∃ id ∈ range, d.content.hasDisplay id = false) ∧
      (perform (.validate range) d).2.outcome = .error .numberTooLong := by
  intro d range
  have hmem : ((leastTooLong - 1 : Nat) : Int) ∈ range :=
    IdRange.mem_iff.mpr ⟨Int.le_refl _, Int.lt_succ _⟩
  exact ⟨⟨_, hmem, rfl⟩, by decide +kernel⟩

end Draft

end IsaNames.Lexicon
