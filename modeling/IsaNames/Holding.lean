import IsaNames.Lexicon

/-!
# Holdings

A range of IDs that was handed out: who owns it, and how its IDs are spelled out.  Spelling an ID
may depend on state that is still being written, so a namer is given that state with each
question.

## Main definitions

* `Namer` — a rule that spells out IDs.
* `Holding` — a range, its namer and its owner.
* `Chart` — holdings in the order of their bases, searched by halving.
-/

namespace IsaNames

/-- A rule that spells out IDs, given the state `ε` of what it may consult. -/
abbrev Namer (ε : Type) := ε → Int → Text.Phrase

namespace Namer

variable {ε : Type}

/-- Spells out every ID the same. -/
def constant (text : String) : Namer ε := fun _ _ => text

/-- Spells out an ID as a stem and the number. -/
def numbered (stem : String) : Namer ε := fun _ id => fallbackPhrase stem id

/-- Spells out an ID as a lexicon shows it. -/
def ofLexicon (x : Lexicon) : Namer ε := fun _ id => x.display id

end Namer

/-- A range that was handed out. -/
structure Holding (ε : Type) where
  range : IdRange
  namer : Namer ε
  owner : String

/-! ### Charts -/

/-- Holdings in the order of their bases, empty ones left out. -/
structure Chart (ε : Type) where
  items : Array (Holding ε)

namespace Chart

variable {ε : Type}

/-- The chart of holdings in any order. -/
def ofList (holdings : List (Holding ε)) : Chart ε :=
  ⟨((holdings.filter fun h => h.range.size != 0).mergeSort
    fun a b => a.range.base ≤ b.range.base).toArray⟩

/-- The holdings in the order of the chart. -/
def toList (c : Chart ε) : List (Holding ε) := c.items.toList

/-- The ranges with their owners, in the order of the chart. -/
def ranges (c : Chart ε) : List (String × IdRange) := c.toList.map fun h => (h.owner, h.range)

/-- How many of the items before `hi` have a base up to `id`, if those before `lo` do. -/
def upperBound (items : Array (Holding ε)) (id : Int) (lo hi : Nat) (h : hi ≤ items.size) : Nat :=
  if hlt : lo < hi then
    let mid := (lo + hi) / 2
    have hmid : mid < items.size := by omega
    if id < items[mid].range.base then upperBound items id lo mid (by omega)
    else upperBound items id (mid + 1) hi h
  else lo
termination_by hi - lo

/-- The holding that contains an ID, if there is one: only the last one with a base up to the ID
can. -/
def find? (c : Chart ε) (id : Int) : Option (Holding ε) :=
  match upperBound c.items id 0 c.items.size (Nat.le_refl _) with
  | 0 => none
  | i + 1 => c.items[i]?.filter fun h => id ∈ h.range

end Chart

end IsaNames
