import IsaNames.Text.Blank
import IsaNames.Text.Digit
import IsaNames.Text.DigitLimit

/-!
# Integers in a base of their choice

An integer is written with an optional sign and either a decimal number, which has no superfluous
zeros in front, or `0x`, `0o` or `0b` and digits of that base.  Single underscores may stand
between two digits and right after the mark of the base.  Decimal digits of every script count as
digits, and white space around the number does not count.  A decimal number may not have more
digits than `digitLimit`.

## Main definitions

* `readDigits?` — digits with single underscores between them.
* `readUnsigned?` — a number without a sign.
* `readInteger?` — a whole text.
-/

namespace IsaNames.Text

/-! ### Digits -/

/-- The value of a letter or an ASCII digit as a digit: `0` to `9`, then `a` to `z` in either
case. -/
def positional? (c : Char) : Option Nat :=
  if '0' ≤ c ∧ c ≤ '9' then some (c.toNat - 48)
  else if 'a' ≤ c ∧ c ≤ 'z' then some (c.toNat - 87)
  else if 'A' ≤ c ∧ c ≤ 'Z' then some (c.toNat - 55)
  else none

/-- The value of a digit of the base. -/
def digitOf? (base : Nat) (c : Char) : Option Nat := (positional? c).filter (· < base)

/-- The number that goes on with the given text after digits worth `acc`; an underscore has to stand
between two digits. -/
def readOn? (base : Nat) : Nat → List Char → Option Nat
  | acc, [] => some acc
  | acc, '_' :: c :: rest => (digitOf? base c).bind fun d => readOn? base (acc * base + d) rest
  | acc, c :: rest => (digitOf? base c).bind fun d => readOn? base (acc * base + d) rest

/-- The number written by digits of the base, of which there is at least one. -/
def readDigits? (base : Nat) : List Char → Option Nat
  | [] => none
  | c :: rest => (digitOf? base c).bind fun d => readOn? base d rest

/-! ### Numbers -/

/-- Digits after the mark of a base; one underscore may come first. -/
def readMarked? (base : Nat) : List Char → Option Nat
  | '_' :: rest => readDigits? base rest
  | cs => readDigits? base cs

/-- A decimal number: one that starts with a zero is zero, and none has too many digits. -/
def readDecimal? (cs : List Char) : Option Nat :=
  (readDigits? 10 cs).filter fun n =>
    (cs.head? != some '0' || n == 0) && cs.countP (· != '_') ≤ digitLimit

/-- A number without a sign, in the base that its first two characters tell. -/
def readUnsigned? : List Char → Option Nat
  | '0' :: 'x' :: rest | '0' :: 'X' :: rest => readMarked? 16 rest
  | '0' :: 'o' :: rest | '0' :: 'O' :: rest => readMarked? 8 rest
  | '0' :: 'b' :: rest | '0' :: 'B' :: rest => readMarked? 2 rest
  | cs => readDecimal? cs

/-- A number with an optional sign. -/
def readSigned? : List Char → Option Int
  | '+' :: rest => (readUnsigned? rest).map Int.ofNat
  | '-' :: rest => (readUnsigned? rest).map fun n => -(n : Int)
  | cs => (readUnsigned? cs).map Int.ofNat

/-! ### Whole texts -/

/-- Writes a character beyond ASCII as the ASCII one that it counts as: a space, a digit, or a
character that no number has. -/
def toAscii (c : Char) : Char :=
  if c.toNat < 127 then c
  else if isBlank c then ' '
  else match digitValue? c with
    | some d => Nat.digitChar d
    | none => '?'

/-- The white space that may surround a number once its characters are ASCII.  The separators U+001C
to U+001F, which are blanks around a name, are none around a number. -/
def isAsciiBlank (c : Char) : Bool := c = ' ' || (9 ≤ c.toNat && c.toNat ≤ 13)

/-- The integer that a text stands for. -/
def readInteger? (text : String) : Option Int :=
  readSigned? (trimWhile isAsciiBlank (text.toList.map toAscii))

end IsaNames.Text
