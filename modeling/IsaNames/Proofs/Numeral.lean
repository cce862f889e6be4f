import IsaNames.Proofs.Key
import IsaNames.Text.Numeral

/-!
# The grammar of integers

What a text has to look like to stand for an integer, said of the text as it was given: which scripts
its digits are of does not matter, where underscores stand does.  The reader first writes every
character as an ASCII one and then goes through the text from left to right; it accepts exactly the
texts of the grammar, decimal numbers up to a limit.

## Main definitions

* `IsDigitOf`, `MoreDigits`, `valueOf` — digits of a base and the number that they denote.
* `Unsigned`, `Signed` — numbers without and with a sign.
* `Denotes` — the grammar: a text stands for an integer.
* `TooLong`, `IsLongDecimal` — what the grammar has beyond the limit.

## Main results

* `digitOf?_toAscii` — the digits are the characters that count as one.
* `readOn?_map_eq_some_iff`, `readUnsigned?_map_eq_some_iff` — what the parts of the reader accept.
* `readInteger?_eq_some_iff` — **the reader accepts exactly the texts of the grammar that are not too
  long.**
-/

namespace IsaNames.Text

/-! ### The grammar -/

/-- The value of a character as a digit: that of a decimal digit of any script, and from ten on that of
a letter of the Latin alphabet in either case. -/
def digitWorth? (c : Char) : Option Nat :=
  if 'a' ≤ c ∧ c ≤ 'z' then some (10 + (c.toNat - 'a'.toNat))
  else if 'A' ≤ c ∧ c ≤ 'Z' then some (10 + (c.toNat - 'A'.toNat))
  else digitValue? c

/-- A character is a digit of the base and has the value `d`. -/
def IsDigitOf (base : Nat) (c : Char) (d : Nat) : Prop := digitWorth? c = some d ∧ d < base

/-- Digits of the base, an underscore in front of each or not. -/
inductive MoreDigits (base : Nat) : List Char → List Nat → Prop
  | nil : MoreDigits base [] []
  | digit {c : Char} {d : Nat} {cs : List Char} {ds : List Nat} (hd : IsDigitOf base c d)
      (hrest : MoreDigits base cs ds) : MoreDigits base (c :: cs) (d :: ds)
  | spaced {c : Char} {d : Nat} {cs : List Char} {ds : List Nat} (hd : IsDigitOf base c d)
      (hrest : MoreDigits base cs ds) : MoreDigits base ('_' :: c :: cs) (d :: ds)

/-- The number that digits denote after digits worth `acc`. -/
def valueAfter (base acc : Nat) (ds : List Nat) : Nat := ds.foldl (fun n d => n * base + d) acc

/-- The number that digits denote, the first of them counting most. -/
def valueOf (base : Nat) (ds : List Nat) : Nat := valueAfter base 0 ds

/-- The base that a letter marks. -/
def baseOf? (mark : Char) : Option Nat :=
  if mark = 'x' ∨ mark = 'X' then some 16
  else if mark = 'o' ∨ mark = 'O' then some 8
  else if mark = 'b' ∨ mark = 'B' then some 2
  else none

/-- A number without a sign. -/
inductive Unsigned : List Char → Nat → Prop
  /-- Decimal digits; if the first one is zero, they all are. -/
  | decimal {c : Char} {d : Nat} {cs : List Char} {ds : List Nat} (hd : IsDigitOf 10 c d)
      (hrest : MoreDigits 10 cs ds) (hzero : d = 0 → valueOf 10 (d :: ds) = 0) :
      Unsigned (c :: cs) (valueOf 10 (d :: ds))
  /-- A zero, the mark of a base, and digits of that base; an underscore may stand behind the mark. -/
  | marked {zero mark : Char} {base : Nat} {cs : List Char} {ds : List Nat}
      (hzero : IsDigitOf 10 zero 0) (hmark : baseOf? mark = some base)
      (hrest : MoreDigits base cs ds) (hne : ds ≠ []) :
      Unsigned (zero :: mark :: cs) (valueOf base ds)

/-- A number with an optional sign. -/
inductive Signed : List Char → Int → Prop
  | bare {cs : List Char} {n : Nat} (h : Unsigned cs n) : Signed cs n
  | plus {cs : List Char} {n : Nat} (h : Unsigned cs n) : Signed ('+' :: cs) n
  | minus {cs : List Char} {n : Nat} (h : Unsigned cs n) : Signed ('-' :: cs) (-n)

/-- A blank that may surround a number: any but the separators U+001C to U+001F. -/
def IsMargin (c : Char) : Prop := isBlank c = true ∧ ¬(0x1c ≤ c.toNat ∧ c.toNat ≤ 0x1f)

instance : DecidablePred IsMargin := fun c =>
  inferInstanceAs (Decidable (isBlank c = true ∧ ¬(0x1c ≤ c.toNat ∧ c.toNat ≤ 0x1f)))

/-- **The grammar**: a text stands for an integer if that is what is between its margins. -/
def Denotes (text : String) (n : Int) : Prop :=
  ∃ before body after, text.toList = before ++ body ++ after ∧ (∀ c ∈ before, IsMargin c) ∧
    (∀ c ∈ after, IsMargin c) ∧ Signed body n

/-- There are more decimal digits than can be read, and no letter that marks another base. -/
def TooLong (cs : List Char) : Prop :=
  digitLimit < cs.countP isDecimalDigit ∧ ∀ c ∈ cs, baseOf? c = none

/-- The text stands for an integer, but in decimal with more digits than can be read. -/
def IsLongDecimal (text : String) : Prop := (∃ n, Denotes text n) ∧ TooLong text.toList

/-! ### Characters as ASCII -/

variable {base : Nat} {c : Char} {d : Nat}

theorem exists_zero_of_digitValue? (h : digitValue? c = some d) :
    ∃ z ∈ digitZeros, z ≤ c.toNat ∧ c.toNat < z + 10 ∧ d = c.toNat - z := by
  obtain ⟨z, hfind, rfl⟩ := Option.map_eq_some_iff.mp h
  have hz := List.find?_some hfind
  simp only [Bool.and_eq_true, decide_eq_true_eq] at hz
  exact ⟨z, List.mem_of_find?_eq_some hfind, hz.1, hz.2, rfl⟩

theorem digitValue?_lt (h : digitValue? c = some d) : d < 10 := by
  obtain ⟨z, -, hle, hlt, rfl⟩ := exists_zero_of_digitValue? h
  omega

/-- No decimal digit of any script is blank. -/
theorem isBlank_of_digitValue? (h : digitValue? c = some d) : isBlank c = false := by
  have hapart : ∀ z ∈ digitZeros, ∀ s ∈ blankSpans, s.last < z ∨ z + 10 ≤ s.first := by decide
  obtain ⟨z, hz, hle, hlt, -⟩ := exists_zero_of_digitValue? h
  rw [isBlank, Span.anyCovers, List.any_eq_false]
  intro s hs
  have hout := hapart z hz s hs
  simp only [Span.covers, Bool.and_eq_true, decide_eq_true_eq]
  omega

/-- The decimal digits of ASCII. -/
theorem digitValue?_of_lt (h : c.toNat < 127) :
    digitValue? c = if 48 ≤ c.toNat ∧ c.toNat ≤ 57 then some (c.toNat - 48) else none := by
  have hothers : ∀ z ∈ digitZeros.tail, 127 ≤ z := by decide
  have hnone : digitZeros.tail.find? (fun z => z ≤ c.toNat && c.toNat < z + 10) = none := by
    rw [List.find?_eq_none]
    intro z hz
    have hge := hothers z hz
    simp only [Bool.and_eq_true, decide_eq_true_eq]
    omega
  have hzeros : digitZeros = 48 :: digitZeros.tail := rfl
  rw [digitValue?, hzeros, List.find?_cons, hnone]
  by_cases hdigit : 48 ≤ c.toNat ∧ c.toNat ≤ 57
  · have htest : (decide (48 ≤ c.toNat) && decide (c.toNat < 48 + 10)) = true := by
      simp only [Bool.and_eq_true, decide_eq_true_eq]
      omega
    rw [htest, if_pos hdigit]
    rfl
  · have htest : (decide (48 ≤ c.toNat) && decide (c.toNat < 48 + 10)) = false := by
      simp only [Bool.and_eq_false_iff, decide_eq_false_iff_not]
      omega
    rw [htest, if_neg hdigit]
    rfl

/-- What a character is written as. -/
theorem toAscii_cases (c : Char) :
    (c.toNat < 127 ∧ toAscii c = c) ∨
    127 ≤ c.toNat ∧ (isBlank c = true ∧ toAscii c = ' ' ∨
      isBlank c = false ∧ (digitValue? c = none ∧ toAscii c = '?' ∨
        ∃ d, digitValue? c = some d ∧ toAscii c = Nat.digitChar d)) := by
  unfold toAscii
  split
  · next h => exact .inl ⟨h, rfl⟩
  · next h =>
    refine .inr ⟨by omega, ?_⟩
    split
    · next hblank => exact .inl ⟨hblank, rfl⟩
    · next hblank =>
      refine .inr ⟨by simpa using hblank, ?_⟩
      cases hdigit : digitValue? c with
      | none => exact .inl ⟨rfl, rfl⟩
      | some d => exact .inr ⟨d, rfl, rfl⟩

theorem digitValue?_eq_none_of_isBlank (h : isBlank c = true) : digitValue? c = none := by
  cases hdigit : digitValue? c with
  | none => rfl
  | some d => simp [isBlank_of_digitValue? hdigit] at h

theorem positional?_digitChar : ∀ d < 10, positional? (Nat.digitChar d) = some d := by decide

/-- The digits of ASCII by their codes. -/
theorem positional?_eq (c : Char) : positional? c =
    if 48 ≤ c.toNat ∧ c.toNat ≤ 57 then some (c.toNat - 48)
    else if 97 ≤ c.toNat ∧ c.toNat ≤ 122 then some (c.toNat - 87)
    else if 65 ≤ c.toNat ∧ c.toNat ≤ 90 then some (c.toNat - 55)
    else none := rfl

/-- The digits of the grammar by their codes. -/
theorem digitWorth?_eq (c : Char) : digitWorth? c =
    if 97 ≤ c.toNat ∧ c.toNat ≤ 122 then some (10 + (c.toNat - 97))
    else if 65 ≤ c.toNat ∧ c.toNat ≤ 90 then some (10 + (c.toNat - 65))
    else digitValue? c := rfl

/-- A character is read as the digit that it counts as. -/
theorem positional?_toAscii (c : Char) : positional? (toAscii c) = digitWorth? c := by
  rcases toAscii_cases c with ⟨hlt, hself⟩ | ⟨hge, hcase⟩
  · rw [hself, digitWorth?_eq, digitValue?_of_lt hlt, positional?_eq]
    grind
  · rw [digitWorth?_eq, if_neg (by omega), if_neg (by omega)]
    rcases hcase with ⟨hblank, hspace⟩ | ⟨-, ⟨hnone, hother⟩ | ⟨d, hdigit, hchar⟩⟩
    · rw [hspace, digitValue?_eq_none_of_isBlank hblank]
      rfl
    · rw [hother, hnone]
      rfl
    · rw [hchar, hdigit, positional?_digitChar d (digitValue?_lt hdigit)]

/-- **The digits are the characters that count as one.** -/
theorem digitOf?_toAscii : digitOf? base (toAscii c) = some d ↔ IsDigitOf base c d := by
  rw [digitOf?, positional?_toAscii, Option.filter_eq_some_iff, IsDigitOf, decide_eq_true_eq]

/-- The characters that stay and that nothing else is written as. -/
theorem toAscii_eq_iff {a : Char} (ha : a ∈ ['_', '+', '-', 'x', 'X', 'o', 'O', 'b', 'B']) :
    toAscii c = a ↔ c = a := by
  have hfix : ∀ a ∈ ['_', '+', '-', 'x', 'X', 'o', 'O', 'b', 'B'],
      toAscii a = a ∧ a ≠ ' ' ∧ a ≠ '?' ∧ ∀ d < 10, Nat.digitChar d ≠ a :=
    forall_mem_of_all (by decide +kernel)
  obtain ⟨hself, hspace, hother, hdigits⟩ := hfix a ha
  constructor
  · intro h
    rcases toAscii_cases c with ⟨-, hc⟩ | ⟨-, ⟨-, hc⟩ | ⟨-, ⟨-, hc⟩ | ⟨d, hd, hc⟩⟩⟩
    · rw [← h, hc]
    · exact absurd (h.symm.trans hc) hspace
    · exact absurd (h.symm.trans hc) hother
    · exact absurd (hc.symm.trans h) (hdigits d (digitValue?_lt hd))
  · rintro rfl
    exact hself

/-- The margins are the characters that count as blanks around a number. -/
theorem isAsciiBlank_toAscii : isAsciiBlank (toAscii c) = true ↔ IsMargin c := by
  have hdigits : ∀ d < 10, isAsciiBlank (Nat.digitChar d) = false := by decide
  rcases toAscii_cases c with ⟨hlt, hc⟩ | ⟨hge, ⟨hblank, hc⟩ | ⟨hblank, hcase⟩⟩
  · have hspace : c = ' ' ↔ c.toNat = 32 := Char.toNat_inj.symm
    rw [hc, isAsciiBlank, IsMargin, isBlank]
    simp [Span.anyCovers, blankSpans, Span.covers, hspace]
    omega
  · rw [hc, IsMargin, hblank]
    simp [isAsciiBlank]
    omega
  · rw [IsMargin, hblank]
    rcases hcase with ⟨-, hc⟩ | ⟨d, hd, hc⟩
    · simp [hc, isAsciiBlank]
    · simp [hc, hdigits d (digitValue?_lt hd)]

/-- No digit is a margin. -/
theorem IsDigitOf.not_isMargin (h : IsDigitOf base c d) : ¬ IsMargin c := by
  have hblank : ∀ a, isAsciiBlank a = true → positional? a = none := by
    intro a ha
    have hspace : a = ' ' ↔ a.toNat = 32 := Char.toNat_inj.symm
    simp only [isAsciiBlank, hspace, Bool.or_eq_true, Bool.and_eq_true, decide_eq_true_eq] at ha
    rw [positional?_eq, if_neg (by omega), if_neg (by omega), if_neg (by omega)]
  intro hmargin
  have hnone := hblank _ (isAsciiBlank_toAscii.mpr hmargin)
  rw [positional?_toAscii, h.1] at hnone
  cases hnone

/-- An underscore is no digit. -/
theorem IsDigitOf.ne_underscore (h : IsDigitOf base c d) : c ≠ '_' := by
  have hnone : digitWorth? '_' = none := by decide
  rintro rfl
  rw [IsDigitOf, hnone] at h
  cases h.1

/-! ### The parts of the reader -/

variable {acc n : Nat} {cs : List Char}

theorem readOn?_cons_of_ne {a : Char} (ha : a ≠ '_') (base acc : Nat) (rest : List Char) :
    readOn? base acc (a :: rest) =
      (digitOf? base a).bind fun d => readOn? base (acc * base + d) rest := by
  rw [readOn?]
  intro c rest' h
  exact absurd h ha

theorem toAscii_underscore : toAscii '_' = '_' := rfl

theorem toAscii_ne_underscore (h : c ≠ '_') : toAscii c ≠ '_' :=
  fun hc => h ((toAscii_eq_iff (by simp)).mp hc)

/-- Digits are read as the number that they denote. -/
theorem MoreDigits.readOn?_map {ds : List Nat} (h : MoreDigits base cs ds) (acc : Nat) :
    readOn? base acc (cs.map toAscii) = some (valueAfter base acc ds) := by
  induction h generalizing acc with
  | nil => rfl
  | digit hd _ ih =>
    rw [List.map_cons, readOn?_cons_of_ne (toAscii_ne_underscore hd.ne_underscore),
      digitOf?_toAscii.mpr hd, Option.bind_some, ih]
    rfl
  | spaced hd _ ih =>
    rw [List.map_cons, List.map_cons, toAscii_underscore, readOn?, digitOf?_toAscii.mpr hd,
      Option.bind_some, ih]
    rfl

/-- What is read as a number is digits. -/
theorem exists_moreDigits : ∀ {cs : List Char} {acc : Nat},
    readOn? base acc (cs.map toAscii) = some n →
      ∃ ds, MoreDigits base cs ds ∧ valueAfter base acc ds = n
  | [], _, h => ⟨[], .nil, Option.some.inj h⟩
  | c :: rest, acc, h => by
    by_cases hc : c = '_'
    · subst hc
      match rest, h with
      | [], h =>
        -- the underscore would have to be a digit itself
        obtain ⟨d, hd, -⟩ := Option.bind_eq_some_iff.mp h
        exact absurd rfl (digitOf?_toAscii.mp hd).ne_underscore
      | c :: rest, h =>
        obtain ⟨d, hd, h⟩ := Option.bind_eq_some_iff.mp h
        obtain ⟨ds, hds, hvalue⟩ := exists_moreDigits h
        exact ⟨d :: ds, .spaced (digitOf?_toAscii.mp hd) hds, hvalue⟩
    · rw [List.map_cons, readOn?_cons_of_ne (toAscii_ne_underscore hc)] at h
      obtain ⟨d, hd, h⟩ := Option.bind_eq_some_iff.mp h
      obtain ⟨ds, hds, hvalue⟩ := exists_moreDigits h
      exact ⟨d :: ds, .digit (digitOf?_toAscii.mp hd) hds, hvalue⟩

/-- **What goes on a number is more digits.** -/
theorem readOn?_map_eq_some_iff :
    readOn? base acc (cs.map toAscii) = some n ↔
      ∃ ds, MoreDigits base cs ds ∧ valueAfter base acc ds = n := by
  refine ⟨exists_moreDigits, ?_⟩
  rintro ⟨ds, hds, rfl⟩
  exact hds.readOn?_map acc

/-- A number begins with a digit. -/
theorem readDigits?_map_eq_some_iff :
    readDigits? base (cs.map toAscii) = some n ↔
      ∃ c rest d ds, cs = c :: rest ∧ IsDigitOf base c d ∧ MoreDigits base rest ds ∧
        valueOf base (d :: ds) = n := by
  have hfirst : ∀ d ds, valueOf base (d :: ds) = valueAfter base d ds := by
    intro d ds
    simp [valueOf, valueAfter]
  cases cs with
  | nil => simp [readDigits?]
  | cons c rest =>
    simp only [List.map_cons, readDigits?, Option.bind_eq_some_iff, digitOf?_toAscii,
      readOn?_map_eq_some_iff, List.cons.injEq, hfirst]
    constructor
    · rintro ⟨d, hd, ds, hds, hvalue⟩
      exact ⟨c, rest, d, ds, ⟨rfl, rfl⟩, hd, hds, hvalue⟩
    · rintro ⟨_, _, d, ds, ⟨rfl, rfl⟩, hd, hds, hvalue⟩
      exact ⟨d, hd, ds, hds, hvalue⟩

theorem readMarked?_cons_of_ne {a : Char} (ha : a ≠ '_') (base : Nat) (rest : List Char) :
    readMarked? base (a :: rest) = readDigits? base (a :: rest) := by
  rw [readMarked?]
  intro rest' h
  exact ha (List.cons.inj h).1

/-- After the mark of a base there is at least one digit, and an underscore may come first. -/
theorem readMarked?_map_eq_some_iff :
    readMarked? base (cs.map toAscii) = some n ↔
      ∃ ds, MoreDigits base cs ds ∧ ds ≠ [] ∧ valueOf base ds = n := by
  constructor
  · intro h
    cases cs with
    | nil => cases h
    | cons c rest =>
      by_cases hc : c = '_'
      · subst hc
        obtain ⟨c, rest, d, ds, rfl, hd, hds, hvalue⟩ := readDigits?_map_eq_some_iff.mp h
        exact ⟨d :: ds, .spaced hd hds, List.cons_ne_nil _ _, hvalue⟩
      · rw [List.map_cons, readMarked?_cons_of_ne (toAscii_ne_underscore hc), ← List.map_cons] at h
        obtain ⟨c, rest, d, ds, hcs, hd, hds, hvalue⟩ := readDigits?_map_eq_some_iff.mp h
        rw [hcs]
        exact ⟨d :: ds, .digit hd hds, List.cons_ne_nil _ _, hvalue⟩
  · rintro ⟨ds, hds, hne, hvalue⟩
    cases hds with
    | nil => exact absurd rfl hne
    | digit hd hrest =>
      rw [List.map_cons, readMarked?_cons_of_ne (toAscii_ne_underscore hd.ne_underscore),
        ← List.map_cons]
      exact readDigits?_map_eq_some_iff.mpr ⟨_, _, _, _, rfl, hd, hrest, hvalue⟩
    | spaced hd hrest =>
      exact readDigits?_map_eq_some_iff.mpr ⟨_, _, _, _, rfl, hd, hrest, hvalue⟩

/-- A decimal digit is written as the one of ASCII with its value. -/
theorem IsDigitOf.toNat_toAscii (h : IsDigitOf 10 c d) : (toAscii c).toNat = 48 + d := by
  have hpositional : positional? (toAscii c) = some d := (positional?_toAscii c).trans h.1
  have hlt := h.2
  rw [positional?_eq] at hpositional
  grind

/-- It is the digit zero if it is worth nothing. -/
theorem IsDigitOf.toAscii_eq_zero_iff (h : IsDigitOf 10 c d) : toAscii c = '0' ↔ d = 0 := by
  rw [← Char.toNat_inj, h.toNat_toAscii]
  show 48 + d = 48 ↔ d = 0
  omega

/-- The digits are what is left without the underscores. -/
theorem MoreDigits.countP_eq {ds : List Nat} (h : MoreDigits base cs ds) :
    (cs.map toAscii).countP (· != '_') = ds.length := by
  induction h with
  | nil => rfl
  | digit hd _ ih => simp [toAscii_ne_underscore hd.ne_underscore, ih]
  | spaced hd _ ih => simp [toAscii_ne_underscore hd.ne_underscore, toAscii_underscore, ih]

/-- A decimal number has a limited number of digits, and begins with a zero only if it is zero. -/
theorem readDecimal?_map_eq_some_iff :
    readDecimal? (cs.map toAscii) = some n ↔
      ∃ c rest d ds, cs = c :: rest ∧ IsDigitOf 10 c d ∧ MoreDigits 10 rest ds ∧
        valueOf 10 (d :: ds) = n ∧ (d = 0 → n = 0) ∧ (d :: ds).length ≤ digitLimit := by
  have hchecks : ∀ {c rest d ds}, IsDigitOf 10 c d → MoreDigits 10 rest ds →
      (((((c :: rest).map toAscii).head? != some '0' || n == 0) &&
        decide (((c :: rest).map toAscii).countP (· != '_') ≤ digitLimit)) = true ↔
        (d = 0 → n = 0) ∧ (d :: ds).length ≤ digitLimit) := by
    intro c rest d ds hd hds
    have hcount := (MoreDigits.digit hd hds).countP_eq
    rw [hcount]
    simp only [List.map_cons, List.head?_cons, Bool.and_eq_true, Bool.or_eq_true, bne_iff_ne, ne_eq,
      Option.some.injEq, hd.toAscii_eq_zero_iff, beq_iff_eq, decide_eq_true_eq, imp_iff_not_or]
  rw [readDecimal?, Option.filter_eq_some_iff, readDigits?_map_eq_some_iff]
  constructor
  · rintro ⟨⟨c, rest, d, ds, rfl, hd, hds, hvalue⟩, hcheck⟩
    exact ⟨c, rest, d, ds, rfl, hd, hds, hvalue, (hchecks hd hds).mp hcheck⟩
  · rintro ⟨c, rest, d, ds, rfl, hd, hds, hvalue, hcheck⟩
    exact ⟨⟨c, rest, d, ds, rfl, hd, hds, hvalue⟩, (hchecks hd hds).mpr hcheck⟩

/-! ### Whole numbers -/

/-- Where a zero and the mark of a base come first, digits of that base follow. -/
theorem readUnsigned?_marked {mark : Char} (h : baseOf? mark = some base) (cs : List Char) :
    readUnsigned? ('0' :: mark :: cs) = readMarked? base cs := by
  simp only [baseOf?] at h
  split at h
  · next hmark =>
    cases h
    rcases hmark with rfl | rfl <;> rfl
  split at h
  · next hmark =>
    cases h
    rcases hmark with rfl | rfl <;> rfl
  split at h
  · next hmark =>
    cases h
    rcases hmark with rfl | rfl <;> rfl
  · cases h

/-- Otherwise the number is decimal. -/
theorem readUnsigned?_decimal (h : ∀ mark rest, cs = '0' :: mark :: rest → baseOf? mark = none) :
    readUnsigned? cs = readDecimal? cs := by
  rw [readUnsigned?] <;>
  · intro rest hcs
    exact absurd (h _ rest hcs) (by decide)

theorem baseOf?_toAscii (mark : Char) : baseOf? (toAscii mark) = baseOf? mark := by
  simp [baseOf?, toAscii_eq_iff]

/-- The letter that marks a base is neither a decimal digit nor a margin. -/
theorem mark_spec {mark : Char} (h : baseOf? mark = some base) :
    (digitWorth? mark).all (10 ≤ ·) = true ∧ mark.isDigit = false ∧ ¬ IsMargin mark := by
  have hmem : mark ∈ ['x', 'X', 'o', 'O', 'b', 'B'] := by grind [baseOf?]
  have hmarks : ∀ a ∈ ['x', 'X', 'o', 'O', 'b', 'B'],
      (digitWorth? a).all (10 ≤ ·) = true ∧ a.isDigit = false ∧ ¬ IsMargin a :=
    forall_mem_of_all (by decide)
  exact hmarks mark hmem

/-- No mark of a base is a decimal digit or an underscore. -/
theorem MoreDigits.baseOf?_eq_none {mark : Char} {ds : List Nat}
    (h : MoreDigits 10 (mark :: cs) ds) : baseOf? mark = none := by
  cases hbase : baseOf? mark with
  | none => rfl
  | some base =>
    cases h with
    | digit hd _ =>
      have hworth := (mark_spec hbase).1
      rw [hd.1] at hworth
      exact absurd hd.2 (Nat.not_lt.mpr (of_decide_eq_true hworth))
    | spaced => cases hbase

/-! ### Numbers that are too long -/

/-- A decimal digit. -/
theorem IsDigitOf.isDecimalDigit (h : IsDigitOf 10 c d) : isDecimalDigit c = true := by
  obtain ⟨hworth, hlt⟩ := h
  rw [digitWorth?_eq] at hworth
  rw [Text.isDecimalDigit]
  grind

/-- Digits are too long if there are too many of them. -/
theorem MoreDigits.tooLong_iff {ds : List Nat} (h : MoreDigits 10 cs ds) :
    TooLong cs ↔ digitLimit < ds.length := by
  have hunderscore : isDecimalDigit '_' = false ∧ baseOf? '_' = none := by decide
  have hspec : cs.countP isDecimalDigit = ds.length ∧ ∀ c ∈ cs, baseOf? c = none := by
    induction h with
    | nil => exact ⟨rfl, List.forall_mem_nil _⟩
    | digit hd hrest ih =>
      refine ⟨?_, List.forall_mem_cons.mpr ⟨(MoreDigits.digit hd hrest).baseOf?_eq_none, ih.2⟩⟩
      rw [List.countP_cons_of_pos hd.isDecimalDigit, ih.1, List.length_cons]
    | spaced hd hrest ih =>
      refine ⟨?_, List.forall_mem_cons.mpr ⟨hunderscore.2,
        List.forall_mem_cons.mpr ⟨(MoreDigits.digit hd hrest).baseOf?_eq_none, ih.2⟩⟩⟩
      rw [List.countP_cons_of_neg (by simp [hunderscore.1]),
        List.countP_cons_of_pos hd.isDecimalDigit, ih.1, List.length_cons]
  rw [TooLong, hspec.1]
  exact and_iff_left hspec.2

/-- Nothing with the mark of a base is too long. -/
theorem not_tooLong_of_mark {mark : Char} (hmem : mark ∈ cs) (h : baseOf? mark = some base) :
    ¬ TooLong cs := by
  intro hlong
  cases h.symm.trans (hlong.2 mark hmem)

/-- What is neither a digit nor a mark does not make a number longer. -/
theorem tooLong_append_iff {before after : List Char}
    (hbefore : ∀ c ∈ before, isDecimalDigit c = false ∧ baseOf? c = none)
    (hafter : ∀ c ∈ after, isDecimalDigit c = false ∧ baseOf? c = none) :
    TooLong (before ++ cs ++ after) ↔ TooLong cs := by
  have hnone : ∀ {l : List Char}, (∀ c ∈ l, isDecimalDigit c = false ∧ baseOf? c = none) →
      l.countP isDecimalDigit = 0 := fun hl =>
    List.countP_eq_zero.mpr fun c hc => by simp [(hl c hc).1]
  rw [TooLong, List.countP_append, List.countP_append, hnone hbefore, hnone hafter, Nat.zero_add,
    Nat.add_zero, List.forall_mem_append, List.forall_mem_append, TooLong]
  exact and_congr_right fun _ =>
    ⟨fun h => h.1.2, fun h => ⟨⟨fun c hc => (hbefore c hc).2, h⟩, fun c hc => (hafter c hc).2⟩⟩

theorem tooLong_cons_iff {sign : Char} (h : isDecimalDigit sign = false ∧ baseOf? sign = none) :
    TooLong (sign :: cs) ↔ TooLong cs := by
  have happend : TooLong ([sign] ++ cs ++ []) ↔ TooLong cs :=
    tooLong_append_iff (List.forall_mem_singleton.mpr h) (List.forall_mem_nil _)
  rwa [List.append_nil] at happend

/-- A margin is neither a digit nor a mark. -/
theorem IsMargin.neutral (h : IsMargin c) : isDecimalDigit c = false ∧ baseOf? c = none := by
  refine ⟨?_, ?_⟩
  · rw [isDecimalDigit, digitValue?_eq_none_of_isBlank h.1, Option.isSome_none]
  · cases hbase : baseOf? c with
    | none => rfl
    | some base => exact absurd h (mark_spec hbase).2.2

/-! ### Reading numbers -/

/-- **A number is read as what it denotes**, unless it is too long. -/
theorem readUnsigned?_map_eq_some_iff :
    readUnsigned? (cs.map toAscii) = some n ↔ Unsigned cs n ∧ ¬ TooLong cs := by
  constructor
  · intro h
    by_cases hmark : ∃ zero mark rest base, cs = zero :: mark :: rest ∧ toAscii zero = '0' ∧
        baseOf? mark = some base
    · obtain ⟨zero, mark, rest, base, rfl, hzero, hmark⟩ := hmark
      have hdigit : IsDigitOf 10 zero 0 := digitOf?_toAscii.mp (by rw [hzero]; rfl)
      rw [List.map_cons, List.map_cons, hzero,
        readUnsigned?_marked ((baseOf?_toAscii mark).trans hmark)] at h
      obtain ⟨ds, hds, hne, rfl⟩ := readMarked?_map_eq_some_iff.mp h
      exact ⟨.marked hdigit hmark hds hne, not_tooLong_of_mark (by simp) hmark⟩
    · rw [readUnsigned?_decimal] at h
      · obtain ⟨c, rest, d, ds, rfl, hd, hds, rfl, hzero, hlength⟩ :=
          readDecimal?_map_eq_some_iff.mp h
        refine ⟨.decimal hd hds hzero, ?_⟩
        rw [(MoreDigits.digit hd hds).tooLong_iff]
        exact Nat.not_lt.mpr hlength
      · intro mark' rest' hcs
        obtain ⟨zero, cs', rfl, hzero, hcs⟩ := List.map_eq_cons_iff.mp hcs
        obtain ⟨mark, rest, rfl, rfl, -⟩ := List.map_eq_cons_iff.mp hcs
        rw [baseOf?_toAscii]
        cases hbase : baseOf? mark with
        | none => rfl
        | some base => exact absurd ⟨zero, mark, rest, base, rfl, hzero, hbase⟩ hmark
  · rintro ⟨h, hshort⟩
    cases h with
    | decimal hd hrest hzero =>
      rw [(MoreDigits.digit hd hrest).tooLong_iff, Nat.not_lt] at hshort
      rw [readUnsigned?_decimal]
      · exact readDecimal?_map_eq_some_iff.mpr ⟨_, _, _, _, rfl, hd, hrest, rfl, hzero, hshort⟩
      · intro mark' rest' hcs
        obtain ⟨mark, rest, rfl, rfl, -⟩ := List.map_eq_cons_iff.mp (List.cons.inj hcs).2
        rw [baseOf?_toAscii]
        exact hrest.baseOf?_eq_none
    | marked hzero hmark hrest hne =>
      rw [List.map_cons, List.map_cons, hzero.toAscii_eq_zero_iff.mpr rfl,
        readUnsigned?_marked ((baseOf?_toAscii _).trans hmark)]
      exact readMarked?_map_eq_some_iff.mpr ⟨_, hrest, hne, rfl⟩

/-- A number without a sign begins with a decimal digit. -/
theorem Unsigned.exists_digit (h : Unsigned cs n) :
    ∃ c rest d, cs = c :: rest ∧ IsDigitOf 10 c d := by
  cases h with
  | decimal hd => exact ⟨_, _, _, rfl, hd⟩
  | marked hzero => exact ⟨_, _, _, rfl, hzero⟩

/-- A digit is no sign. -/
theorem IsDigitOf.ne_sign (h : IsDigitOf base c d) : c ≠ '+' ∧ c ≠ '-' := by
  have hnone : digitWorth? '+' = none ∧ digitWorth? '-' = none := by decide
  constructor
  · rintro rfl
    cases hnone.1.symm.trans h.1
  · rintro rfl
    cases hnone.2.symm.trans h.1

theorem readSigned?_cons_of_ne {a : Char} (h : a ≠ '+' ∧ a ≠ '-') (rest : List Char) :
    readSigned? (a :: rest) = (readUnsigned? (a :: rest)).map Int.ofNat := by
  rw [readSigned?]
  · intro rest' heq
    exact h.1 (List.cons.inj heq).1
  · intro rest' heq
    exact h.2 (List.cons.inj heq).1

theorem readSigned?_minus (rest : List Char) :
    readSigned? ('-' :: rest) = (readUnsigned? rest).map fun n : Nat => -(n : Int) := by
  rw [readSigned?]
  cases readUnsigned? rest <;> rfl

/-- A sign is not a digit, so it stays in front whatever script the digits are of. -/
theorem toAscii_ne_sign (h : c ≠ '+' ∧ c ≠ '-') : toAscii c ≠ '+' ∧ toAscii c ≠ '-' :=
  ⟨fun hc => h.1 ((toAscii_eq_iff (by simp)).mp hc), fun hc => h.2 ((toAscii_eq_iff (by simp)).mp hc)⟩

/-- **So is a number with a sign.** -/
theorem readSigned?_map_eq_some_iff {n : Int} :
    readSigned? (cs.map toAscii) = some n ↔ Signed cs n ∧ ¬ TooLong cs := by
  have hplus : isDecimalDigit '+' = false ∧ baseOf? '+' = none := by decide
  have hminus : isDecimalDigit '-' = false ∧ baseOf? '-' = none := by decide
  constructor
  · intro h
    cases cs with
    | nil => cases h
    | cons c rest =>
      by_cases hc : c = '+'
      · subst hc
        obtain ⟨m, hm, rfl⟩ := Option.map_eq_some_iff.mp h
        obtain ⟨hm, hshort⟩ := readUnsigned?_map_eq_some_iff.mp hm
        exact ⟨.plus hm, (tooLong_cons_iff hplus).not.mpr hshort⟩
      by_cases hc' : c = '-'
      · subst hc'
        have hread := (readSigned?_minus _).symm.trans h
        obtain ⟨m, hm, rfl⟩ := Option.map_eq_some_iff.mp hread
        obtain ⟨hm, hshort⟩ := readUnsigned?_map_eq_some_iff.mp hm
        exact ⟨.minus hm, (tooLong_cons_iff hminus).not.mpr hshort⟩
      rw [List.map_cons, readSigned?_cons_of_ne (toAscii_ne_sign ⟨hc, hc'⟩), ← List.map_cons] at h
      obtain ⟨m, hm, rfl⟩ := Option.map_eq_some_iff.mp h
      obtain ⟨hm, hshort⟩ := readUnsigned?_map_eq_some_iff.mp hm
      exact ⟨.bare hm, hshort⟩
  · rintro ⟨h, hshort⟩
    cases h with
    | bare h =>
      have hread := readUnsigned?_map_eq_some_iff.mpr ⟨h, hshort⟩
      obtain ⟨c, rest, d, rfl, hd⟩ := h.exists_digit
      rw [List.map_cons, readSigned?_cons_of_ne (toAscii_ne_sign hd.ne_sign), ← List.map_cons, hread]
      rfl
    | plus h =>
      have hread := readUnsigned?_map_eq_some_iff.mpr ⟨h, (tooLong_cons_iff hplus).not.mp hshort⟩
      exact Option.map_eq_some_iff.mpr ⟨_, hread, rfl⟩
    | minus h =>
      have hread := readUnsigned?_map_eq_some_iff.mpr ⟨h, (tooLong_cons_iff hminus).not.mp hshort⟩
      exact (readSigned?_minus _).trans (Option.map_eq_some_iff.mpr ⟨_, hread, rfl⟩)

/-! ### Texts -/

theorem MoreDigits.not_isMargin {ds : List Nat} (h : MoreDigits base cs ds) :
    ∀ c ∈ cs, ¬ IsMargin c := by
  have hunderscore : ¬ IsMargin '_' := by decide
  induction h with
  | nil => exact List.forall_mem_nil _
  | digit hd _ ih => exact List.forall_mem_cons.mpr ⟨hd.not_isMargin, ih⟩
  | spaced hd _ ih =>
    exact List.forall_mem_cons.mpr ⟨hunderscore, List.forall_mem_cons.mpr ⟨hd.not_isMargin, ih⟩⟩

/-- No character of a number is a margin. -/
theorem Unsigned.not_isMargin (h : Unsigned cs n) : ∀ c ∈ cs, ¬ IsMargin c := by
  cases h with
  | decimal hd hrest => exact (MoreDigits.digit hd hrest).not_isMargin
  | marked hzero hmark hrest =>
    exact List.forall_mem_cons.mpr ⟨hzero.not_isMargin,
      List.forall_mem_cons.mpr ⟨(mark_spec hmark).2.2, hrest.not_isMargin⟩⟩

theorem Signed.not_isMargin {n : Int} (h : Signed cs n) : ∀ c ∈ cs, ¬ IsMargin c := by
  have hsigns : ¬ IsMargin '+' ∧ ¬ IsMargin '-' := by decide
  cases h with
  | bare h => exact h.not_isMargin
  | plus h => exact List.forall_mem_cons.mpr ⟨hsigns.1, h.not_isMargin⟩
  | minus h => exact List.forall_mem_cons.mpr ⟨hsigns.2, h.not_isMargin⟩

/-- **The reader accepts exactly the texts of the grammar that are not too long**, and reads them as what
they denote. -/
theorem readInteger?_eq_some_iff {text : String} {n : Int} :
    readInteger? text = some n ↔ Denotes text n ∧ ¬ TooLong text.toList := by
  rw [readInteger?, trimWhile_map, readSigned?_map_eq_some_iff]
  constructor
  · rintro ⟨h, hshort⟩
    obtain ⟨before, after, htext, hbefore, hafter⟩ :=
      exists_trimWhile (isAsciiBlank ∘ toAscii) text.toList
    have hbefore' : ∀ c ∈ before, IsMargin c := fun c hc => isAsciiBlank_toAscii.mp (hbefore c hc)
    have hafter' : ∀ c ∈ after, IsMargin c := fun c hc => isAsciiBlank_toAscii.mp (hafter c hc)
    refine ⟨⟨before, _, after, htext, hbefore', hafter', h⟩, ?_⟩
    rw [htext, tooLong_append_iff (fun c hc => (hbefore' c hc).neutral)
      (fun c hc => (hafter' c hc).neutral)]
    exact hshort
  · rintro ⟨⟨before, body, after, htext, hbefore, hafter, h⟩, hshort⟩
    rw [htext, tooLong_append_iff (fun c hc => (hbefore c hc).neutral)
      (fun c hc => (hafter c hc).neutral)] at hshort
    have hbody : ∀ c ∈ body, (isAsciiBlank ∘ toAscii) c = false := by
      intro c hc
      rw [Function.comp_apply, Bool.eq_false_iff, Ne, isAsciiBlank_toAscii]
      exact h.not_isMargin c hc
    have hmargin : ∀ {c}, IsMargin c → (isAsciiBlank ∘ toAscii) c = true := isAsciiBlank_toAscii.mpr
    rw [htext, trimWhile_append _ _ (fun c hc => hmargin (hbefore c hc))
      (fun c hc => hmargin (hafter c hc)), trimWhile_eq_self hbody]
    exact ⟨h, hshort⟩

/-- **Of all texts but decimal numbers that are too long, it accepts just those of the grammar.** -/
theorem readInteger?_eq_some_iff_denotes {text : String} (h : ¬ IsLongDecimal text) (n : Int) :
    readInteger? text = some n ↔ Denotes text n := by
  rw [readInteger?_eq_some_iff]
  exact and_iff_left_of_imp fun hdenotes hlong => h ⟨⟨n, hdenotes⟩, hlong⟩

end IsaNames.Text
