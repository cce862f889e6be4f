import IsaNames.Text.Phrase

/-!
# Ranges of IDs

All architectures share one space of IDs, the integers, and each is given half-open ranges of it.

## Main definitions

* `IdRange` — a base and a size.
* `IdRange.make` — the range of two integers, neither of which may be negative.
* `IdRange.overlaps` — the test for two ranges that may not both be handed out.
* `IdRange.offset` — the position of an ID inside a range.
* `BadRange` — what can be wrong with a range or with an ID given for one.
-/

namespace IsaNames

/-- The IDs from `base` on, `size` of them. -/
structure IdRange where
  base : Nat
  size : Nat
  deriving DecidableEq, Repr, Inhabited

namespace IdRange

/-- The first ID after the range. -/
def stop (r : IdRange) : Nat := r.base + r.size

/-- An ID belongs to a range from its base up to, but not including, its stop. -/
instance : Membership Int IdRange where
  mem r id := (r.base : Int) ≤ id ∧ id < (r.stop : Int)

instance (id : Int) (r : IdRange) : Decidable (id ∈ r) :=
  inferInstanceAs (Decidable ((r.base : Int) ≤ id ∧ id < (r.stop : Int)))

theorem mem_iff {id : Int} {r : IdRange} :
    id ∈ r ↔ (r.base : Int) ≤ id ∧ id < (r.base : Int) + r.size := by
  change (r.base : Int) ≤ id ∧ id < ((r.base + r.size : Nat) : Int) ↔ _
  omega

/-- Each range begins before the other one ends. -/
def overlaps (a b : IdRange) : Bool := a.base < b.stop && b.base < a.stop

/-- The two ends of the range, the second one excluded. -/
def phrase (r : IdRange) : Text.Phrase := "[" ++ (r.base : Int) ++ ", " ++ (r.stop : Int) ++ ")"

/-- The first `count` IDs of the range, or all of them if there are fewer. -/
def firstIds (r : IdRange) (count : Nat) : List Int :=
  (List.range (min count r.size)).map fun i => ((r.base + i : Nat) : Int)

end IdRange

/-- What can be wrong with a range, or with an ID that a range is asked about. -/
inductive BadRange
  /-- The base of a range would be negative. -/
  | negativeBase (base : Int)
  /-- The size of a range would be negative. -/
  | negativeSize (size : Int)
  /-- The ID does not belong to the range. -/
  | outside (id : Int) (range : IdRange)
  /-- The ID belongs to no register bank of the architecture. -/
  | noBank (id : Int) (architecture : String)
  deriving DecidableEq, Repr

namespace BadRange

/-- What the complaint says. -/
def phrase : BadRange → Text.Phrase
  | negativeBase base => "base negativa: " ++ base
  | negativeSize size => "tamaño negativo: " ++ size
  | outside id range => id ++ " fuera de " ++ range.phrase
  | noBank id architecture => id ++ " no pertenece a ningún banco de " ++ architecture

/-- The text of the complaint. -/
def message (b : BadRange) : String := b.phrase.shown

end BadRange

namespace IdRange

/-- The range of a base and a size; of two negative numbers the base is reported. -/
def make (base size : Int) : Except BadRange IdRange :=
  if base < 0 then .error (.negativeBase base)
  else if size < 0 then .error (.negativeSize size)
  else .ok ⟨base.toNat, size.toNat⟩

/-- The two numbers of a range are those it was made of, and neither is negative. -/
theorem make_eq_ok_iff {base size : Int} {r : IdRange} :
    make base size = .ok r ↔ base = (r.base : Int) ∧ size = (r.size : Int) := by
  unfold make
  split
  · simp only [reduceCtorEq, false_iff]
    omega
  · split
    · simp only [reduceCtorEq, false_iff]
      omega
    · simp only [Except.ok.injEq]
      constructor
      · rintro rfl
        simp only
        omega
      · rintro ⟨rfl, rfl⟩
        simp

/-- The position of an ID inside the range. -/
def offset (r : IdRange) (id : Int) : Except BadRange Int :=
  if id ∈ r then .ok (id - r.base) else .error (.outside id r)

/-- The largest number of elements that a sequence can report. -/
def lengthLimit : Nat := Nat.pow 2 63 - 1

/-- The number of IDs of the range, if a sequence can report it. -/
def length? (r : IdRange) : Option Nat := if r.size ≤ lengthLimit then some r.size else none

end IdRange

end IsaNames
