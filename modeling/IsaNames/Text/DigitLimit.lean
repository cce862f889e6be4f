/-!
# The length of decimal numbers

Decimal numbers are read and written up to a fixed number of digits.  Numbers in bases that are
powers of two are read at any length.

## Main definitions

* `digitLimit` — how many digits a decimal number may have.
* `leastTooLong` — the least number with more digits than that.
* `isWritable` — whether an integer can be written.
-/

namespace IsaNames.Text

/-- The largest number of digits, zeros in front included, that a decimal number may have. -/
def digitLimit : Nat := 4300

/-- The complaint about an integer that has more digits than can be written. -/
def digitLimitComplaint : String :=
  "Exceeds the limit (" ++ toString digitLimit ++ " digits) for integer string conversion; " ++
    "use sys.set_int_max_str_digits() to increase the limit"

/-- The least number with more digits than the limit. -/
@[irreducible]
def leastTooLong : Nat := Nat.pow 10 digitLimit

/-- Whether the decimal digits of an integer are few enough to be written; the sign does not
count. -/
def isWritable (n : Int) : Bool := n.natAbs < leastTooLong

theorem isWritable_iff {n : Int} : isWritable n = true ↔ n.natAbs < leastTooLong :=
  decide_eq_true_iff

end IsaNames.Text
