import IsaNames.Proofs.Startup

/-!
# The ranges that a directory lists

A directory lists the ranges of a category with their owners.  They are told by the calls that were made
on the space before it was closed: each call that is accepted hands out what it asks for, and a refused
one nothing.  A chart drops the empty ranges and sorts the others by their bases; because no two overlap,
each of them stops before the next one begins, and the generic opcodes, which begin at zero, come first.

## Main definitions

* `SharedSpace.granted` — the ranges that calls in a row hand out, with their owners.
* `Lists` — what a listing of ranges has to be.

## Main results

* `Chart.lists_ranges` — a chart of holdings that are apart lists them.
* `SharedSpace.rows_after`, `SharedSpace.rows_afterAll` — what a space holds after calls.
* `SharedSpace.ranges_listed` — **a directory lists exactly the ranges that were handed out, in order.**
-/

namespace IsaNames

variable {ε : Type}

/-- The range of a holding with its owner. -/
def Holding.row (h : Holding ε) : String × IdRange := (h.owner, h.range)

/-- The range of an architecture in a category. -/
def Architecture.rangeOf (a : Architecture) : Category → IdRange
  | .registers => a.registerRange
  | .opcodes => a.opcodeRange

/-! ### Listings -/

/-- The rows list the ranges that were handed out, in the order of the IDs. -/
structure Lists (rows handedOut : List (String × IdRange)) : Prop where
  /-- None that has an ID is lost, and no other one is there. -/
  perm : rows.Perm (handedOut.filter fun row => 0 < row.2.size)
  /-- None is there twice. -/
  nodup : rows.Nodup
  increasing : rows.Pairwise fun a b => a.2.base < b.2.base
  /-- Each one stops at the base of the next one at the latest. -/
  separated : rows.Pairwise fun a b => a.2.stop ≤ b.2.base

/-- A range that begins at zero is listed first. -/
theorem Lists.head?_eq {rows handedOut : List (String × IdRange)} (h : Lists rows handedOut)
    {row : String × IdRange} (hrow : row ∈ handedOut) (hsize : 0 < row.2.size)
    (hbase : row.2.base = 0) : rows.head? = some row := by
  have hmem : row ∈ rows := h.perm.mem_iff.mpr (List.mem_filter.mpr ⟨hrow, decide_eq_true hsize⟩)
  have hincreasing := h.increasing
  cases rows with
  | nil => cases hmem
  | cons first rest =>
    rcases List.mem_cons.mp hmem with rfl | hmem
    · rfl
    · have hlt := List.rel_of_pairwise_cons hincreasing hmem
      rw [hbase] at hlt
      exact absurd hlt (Nat.not_lt_zero _)

/-- A chart of holdings that are apart lists them. -/
theorem Chart.lists_ranges {holdings : List (Holding ε)} (ha : Apart holdings) :
    Lists (ofList holdings).ranges (holdings.map Holding.row) := by
  have hseparated := pairwise_stop_le ha
  have hincreasing : (ofList holdings).toList.Pairwise fun a b => a.range.base < b.range.base := by
    refine hseparated.imp_of_mem ?_
    intro a b hmem _ hstop
    have hsize := (mem_items_ofList.mp hmem).2
    rw [IdRange.stop] at hstop
    omega
  have hincreasing' : (ofList holdings).ranges.Pairwise fun a b => a.2.base < b.2.base :=
    List.pairwise_map.mpr hincreasing
  refine ⟨?_, hincreasing'.imp ?_, hincreasing', List.pairwise_map.mpr hseparated⟩
  · have hfull : (holdings.map Holding.row).filter (fun row => 0 < row.2.size) =
        (holdings.filter fun h => h.range.size != 0).map Holding.row := by
      rw [List.filter_map]
      refine congrArg _ (List.filter_congr fun h _ => ?_)
      rw [Bool.eq_iff_iff, Function.comp_apply, decide_eq_true_iff, bne_iff_ne]
      exact Nat.pos_iff_ne_zero
    rw [hfull]
    exact (List.mergeSort_perm ..).map _
  · rintro a _ hlt rfl
    exact Nat.lt_irrefl _ hlt

namespace SharedSpace

/-! ### What calls hand out -/

/-- The range of a category that a call hands out, with its owner, if the call is accepted and asks for
one. -/
def granted? (s : SharedSpace ε) (category : Category) : Call ε → Option (String × IdRange)
  | .claim category' range namer owner =>
    match (claim category' range namer owner s).2.outcome with
    | .ok _ => if category' = category then some (owner, range) else none
    | .error _ => none
  | .register p =>
    match (Provider.register (s, p)).2.outcome with
    | .ok a => some (a.name, a.rangeOf category)
    | .error _ => none
  | .check _ | .attach _ | .close => none

/-- The ranges of a category that calls in a row hand out, with their owners. -/
def granted (category : Category) : SharedSpace ε → List (Call ε) → List (String × IdRange)
  | _, [] => []
  | s, c :: rest => (s.granted? category c).toList ++ granted category (s.after c) rest

/-- The space after calls in a row, whether or not they are refused. -/
def afterAll (s : SharedSpace ε) (calls : List (Call ε)) : SharedSpace ε := calls.foldl after s

/-- What a space holds of a category: the ranges with their owners. -/
def rows (s : SharedSpace ε) (category : Category) : List (String × IdRange) :=
  (s.holdings category).map Holding.row

/-- A call adds to what a space holds just what it hands out. -/
theorem rows_after (s : SharedSpace ε) (category : Category) (c : Call ε) :
    (s.after c).rows category = s.rows category ++ (s.granted? category c).toList := by
  cases c with
  | claim category' range namer owner =>
    rw [granted?, after]
    rcases claim_guarded s category' range namer owner with ⟨-, hends⟩ | ⟨-, e, hends⟩
    · rw [hends.1, hends.2]
      by_cases hc : category' = category
      · subst hc
        simp [rows, Holding.row]
      · simp [rows, hc, holdings_add_of_ne (Ne.symm hc)]
    · simp [hends.1, hends.2]
  | register p =>
    rw [granted?, after]
    rcases Provider.register_cases s p with ⟨a, p', -, -, -, hends⟩ | ⟨e, p', -, -, hends⟩
    · rw [hends.1, hends.2]
      cases category <;> simp [rows, holdings, entered, Holding.row, Architecture.rangeOf]
    · simp [hends.1, hends.2]
  | check a => exact (List.append_nil _).symm
  | attach a =>
    rw [granted?, after]
    rcases (attach_guarded s a).final_cases with ⟨-, hs⟩ | hs
    · rw [hs]
      cases category <;> exact (List.append_nil _).symm
    · simp [hs]
  | close =>
    rw [granted?, after, close]
    split
    · simp
    · cases category <;> exact (List.append_nil _).symm

/-- **A space holds what it held before and what was handed out since**, in that order. -/
theorem rows_afterAll (s : SharedSpace ε) (category : Category) (calls : List (Call ε)) :
    (s.afterAll calls).rows category = s.rows category ++ granted category s calls := by
  induction calls generalizing s with
  | nil => exact (List.append_nil _).symm
  | cons c rest ih =>
    show ((s.after c).afterAll rest).rows category = _
    rw [ih, rows_after, granted, List.append_assoc]

theorem Reachable.afterAll {s : SharedSpace ε} (h : s.Reachable) (calls : List (Call ε)) :
    (s.afterAll calls).Reachable := by
  induction calls generalizing s with
  | nil => exact h
  | cons c rest ih => exact ih (h.after c)

/-! ### Directories -/

/-- **A directory lists exactly the ranges that were handed out, in order.**  Whatever was called on a
space after it was created, and whichever calls were refused, it can be closed, and its directory lists
the ranges with their owners that the accepted calls were given; the generic opcodes, if there are any,
come first among the opcodes. -/
theorem ranges_listed {generic : List String} {s : SharedSpace ε}
    (hcreate : (create generic).outcome = .ok s) (calls : List (Call ε)) :
    ∃ s' dir, close.Ends (s.afterAll calls) s' (.ok dir) ∧
      Lists dir.registerRanges (granted .registers s calls) ∧
      Lists dir.opcodeRanges (("generic", ⟨0, generic.length⟩) :: granted .opcodes s calls) ∧
      (0 < generic.length → dir.opcodeRanges.head? = some ("generic", ⟨0, generic.length⟩)) := by
  have horderly := ((Reachable.create hcreate).afterAll calls).orderly
  have hlists : ∀ category, Lists (Chart.ofList ((s.afterAll calls).holdings category)).ranges
      (s.rows category ++ granted category s calls) := by
    intro category
    rw [← rows_afterAll]
    exact Chart.lists_ranges (horderly.apart category)
  obtain ⟨draft, -, rfl⟩ := create_eq_ok_iff.mp hcreate
  refine ⟨_, _, horderly.ends_close, hlists .registers, hlists .opcodes, fun hgeneric => ?_⟩
  exact (hlists .opcodes).head?_eq List.mem_cons_self hgeneric rfl

/-- Ranges in no order: one that is refused, an empty one, an architecture, and one that comes too
late. -/
theorem ranges_listed_of_unordered :
    ∃ (s : SharedSpace Unit) (calls : List (Call Unit)), (create ["nop"]).outcome = .ok s ∧
      granted .registers s calls = [("b", ⟨8, 2⟩), ("c", ⟨8, 0⟩), ("m", ⟨0, 4⟩)] ∧
      granted .opcodes s calls = [("m", ⟨1, 1⟩)] ∧
      ∃ s' dir, close.Ends (s.afterAll calls) s' (.ok dir) ∧
        Lists dir.registerRanges (granted .registers s calls) ∧
        Lists dir.opcodeRanges (("generic", ⟨0, 1⟩) :: granted .opcodes s calls) ∧
        (0 < 1 → dir.opcodeRanges.head? = some ("generic", ⟨0, 1⟩)) := by
  have hcreate : (create ["nop"] : Traced (SharedSpace Unit)).outcome = .ok _ :=
    create_eq_ok_iff_wellFormed.mpr ⟨⟨by decide +kernel, by decide +kernel⟩, rfl⟩
  refine ⟨_, [.claim .registers ⟨8, 2⟩ (.numbered "b") "b",
    .claim .registers ⟨9, 1⟩ (.numbered "x") "x",
    .claim .registers ⟨8, 0⟩ (.numbered "c") "c",
    .register { declaration := ⟨"m", 0, [⟨"r", 4, false⟩], [], 1, ["add"]⟩ },
    .close,
    .claim .registers ⟨20, 1⟩ (.numbered "x") "x"], hcreate, ?_, ?_, ranges_listed hcreate _⟩
  · decide +kernel
  · decide +kernel

end SharedSpace

end IsaNames
