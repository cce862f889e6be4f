import IsaNames.Proofs.Numeral

/-!
# Integers as they are written

What is written for an integer denotes it: its decimal text, and the text of a number in a base that a
letter marks.  The decimal text can be read if it is not too long, the other one at any length.

## Main definitions

* `markedText` — a number in the base that a letter marks.

## Main results

* `exists_digits` — the digits of a number denote it.
* `denotes_toString`, `readInteger?_toString` — **the decimal text of an integer denotes it**, and it
  is read as that integer if it has few enough digits.
* `denotes_markedText`, `readInteger?_markedText` — **in a marked base every number can be read.**
-/

namespace IsaNames.Text

variable {base : Nat} {c : Char} {d n : Nat} {cs : List Char} {ds : List Nat}

/-! ### Digits -/

theorem isDigitOf_digitChar (hbase : base ≤ 16) (hd : d < base) :
    IsDigitOf base (Nat.digitChar d) d := by
  have hworth : ∀ d < 16, digitWorth? (Nat.digitChar d) = some d := by decide
  exact ⟨hworth d (by omega), hd⟩

/-- One more digit at the end. -/
theorem MoreDigits.concat (h : MoreDigits base cs ds) (hd : IsDigitOf base c d) :
    MoreDigits base (cs ++ [c]) (ds ++ [d]) := by
  induction h with
  | nil => exact .digit hd .nil
  | digit hd' _ ih => exact .digit hd' ih
  | spaced hd' _ ih => exact .spaced hd' ih

theorem valueOf_concat (base d : Nat) (ds : List Nat) :
    valueOf base (ds ++ [d]) = valueOf base ds * base + d := by
  simp [valueOf, valueAfter]

/-- **The digits of a number denote it**, and the first of them is zero only if it is zero. -/
theorem exists_digits (hbase : 2 ≤ base) (hbase' : base ≤ 16) (n : Nat) :
    ∃ c cs d ds, Nat.toDigits base n = c :: cs ∧ IsDigitOf base c d ∧ MoreDigits base cs ds ∧
      valueOf base (d :: ds) = n ∧ (d = 0 → n = 0) := by
  induction n using Nat.strongRecOn with
  | ind n ih =>
    by_cases hn : n < base
    · have hvalue : valueOf base [n] = n := by simp [valueOf, valueAfter]
      rw [Nat.toDigits_of_lt_base hn]
      exact ⟨_, _, n, [], rfl, isDigitOf_digitChar hbase' hn, .nil, hvalue, id⟩
    · -- the last digit is the remainder, and the quotient is not zero
      have hquotient : n / base ≠ 0 := Nat.div_ne_zero_iff.mpr ⟨by omega, by omega⟩
      obtain ⟨c, cs, d, ds, hdigits, hd, hds, hvalue, hzero⟩ :=
        ih (n / base) (Nat.div_lt_self (by omega) (by omega))
      have hlast := isDigitOf_digitChar hbase' (Nat.mod_lt n (by omega : 0 < base))
      rw [Nat.toDigits_of_base_le (by omega) (by omega), hdigits]
      refine ⟨c, _, d, ds ++ [n % base], rfl, hd, hds.concat hlast, ?_, ?_⟩
      · rw [← List.cons_append, valueOf_concat, hvalue, Nat.div_add_mod']
      · exact fun hd0 => absurd (hzero hd0) hquotient

/-! ### Decimal texts -/

theorem length_toDigits_le_iff : (Nat.toDigits 10 n).length ≤ digitLimit ↔ n < leastTooLong := by
  -- for any limit, so that the power is not evaluated
  have hlimit : ∀ k, 0 < k → ((Nat.toDigits 10 n).length ≤ k ↔ n < Nat.pow 10 k) := fun k hk =>
    Nat.length_toDigits_le_iff (by decide) hk
  unfold leastTooLong
  exact hlimit _ (Nat.succ_pos _)

theorem unsigned_toDigits (n : Nat) : Unsigned (Nat.toDigits 10 n) n := by
  obtain ⟨c, cs, d, ds, hdigits, hd, hds, hvalue, hzero⟩ :=
    exists_digits (by decide : 2 ≤ 10) (by decide) n
  have hunsigned : Unsigned (c :: cs) (valueOf 10 (d :: ds)) :=
    .decimal hd hds fun hd0 => hvalue.trans (hzero hd0)
  rwa [← hdigits, hvalue] at hunsigned

/-- A text without margins stands for the number that it is. -/
theorem denotes_of_signed {text : String} {n : Int} (h : Signed text.toList n) : Denotes text n :=
  ⟨[], text.toList, [], by simp, List.forall_mem_nil _, List.forall_mem_nil _, h⟩

theorem toList_toString_of_nonneg {n : Int} (h : 0 ≤ n) :
    (toString n).toList = Nat.toDigits 10 n.natAbs := by
  have habs : n.toNat = n.natAbs := by omega
  rw [Int.toString_eq_repr, Int.repr_eq_if, if_pos h, Nat.toList_repr, habs]

theorem toList_toString_of_neg {n : Int} (h : n < 0) :
    (toString n).toList = '-' :: Nat.toDigits 10 n.natAbs := by
  have habs : (-n).toNat = n.natAbs := by omega
  rw [Int.toString_eq_repr, Int.repr_eq_if, if_neg (by omega), String.toList_append,
    Nat.toList_repr, habs]
  rfl

theorem isDigit_of_mem_toDigits (hc : c ∈ Nat.toDigits 10 n) : c.isDigit = true :=
  Nat.isDigit_of_mem_toDigits (by decide) (by decide) hc

/-- **The decimal text of an integer stands for it**, whatever its sign. -/
theorem denotes_toString (n : Int) : Denotes (toString n) n := by
  apply denotes_of_signed
  by_cases hn : 0 ≤ n
  · rw [toList_toString_of_nonneg hn]
    have hsigned := Signed.bare (unsigned_toDigits n.natAbs)
    rwa [Int.natAbs_of_nonneg hn] at hsigned
  · rw [toList_toString_of_neg (by omega)]
    have hsigned := Signed.minus (unsigned_toDigits n.natAbs)
    rwa [show -(n.natAbs : Int) = n by omega] at hsigned

/-- It has no more digits than can be read if it can be written. -/
theorem not_tooLong_toString {n : Int} (h : n.natAbs < leastTooLong) :
    ¬ TooLong (toString n).toList := by
  have hdash : isDecimalDigit '-' = false ∧ baseOf? '-' = none := by decide
  have hshort : ¬ TooLong (Nat.toDigits 10 n.natAbs) := fun hlong =>
    absurd (Nat.lt_of_lt_of_le hlong.1 List.countP_le_length)
      (Nat.not_lt.mpr (length_toDigits_le_iff.mpr h))
  by_cases hn : 0 ≤ n
  · rwa [toList_toString_of_nonneg hn]
  · rwa [toList_toString_of_neg (by omega), tooLong_cons_iff hdash]

theorem readInteger?_toString {n : Int} (h : n.natAbs < leastTooLong) :
    readInteger? (toString n) = some n :=
  readInteger?_eq_some_iff.mpr ⟨denotes_toString n, not_tooLong_toString h⟩

/-! ### Texts with the mark of a base -/

/-- A number in the base that a letter marks. -/
def markedText (mark : Char) (base n : Nat) : String :=
  String.ofList ('0' :: mark :: Nat.toDigits base n)

theorem base_bounds_of_baseOf? {mark : Char} (h : baseOf? mark = some base) :
    2 ≤ base ∧ base ≤ 16 := by
  grind [baseOf?]

/-- **The text of a number in a marked base stands for it.** -/
theorem denotes_markedText {mark : Char} (h : baseOf? mark = some base) (n : Nat) :
    Denotes (markedText mark base n) n := by
  obtain ⟨hbase, hbase'⟩ := base_bounds_of_baseOf? h
  obtain ⟨c, cs, d, ds, hdigits, hd, hds, hvalue, -⟩ := exists_digits hbase hbase' n
  have hzero : IsDigitOf 10 '0' 0 := ⟨by decide, by decide⟩
  have hunsigned := Unsigned.marked hzero h (.digit hd hds) (List.cons_ne_nil _ _)
  rw [hvalue, ← hdigits] at hunsigned
  apply denotes_of_signed
  rw [markedText, String.toList_ofList]
  exact .bare hunsigned

/-- **In a marked base every number can be read**, however long it is. -/
theorem readInteger?_markedText {mark : Char} (h : baseOf? mark = some base) (n : Nat) :
    readInteger? (markedText mark base n) = some (n : Int) := by
  refine readInteger?_eq_some_iff.mpr ⟨denotes_markedText h n, ?_⟩
  rw [markedText, String.toList_ofList]
  exact not_tooLong_of_mark (by simp) h

end IsaNames.Text
