import IsaNames.Text.Span

/-!
# Blanks

The white space that surrounds a name without belonging to it.

## Main definitions

* `isBlank` — the class.
* `strip` — a text without the blanks at its two ends.
-/

namespace IsaNames.Text

/-- The code points that are white space. -/
def blankSpans : List Span :=
  [⟨0x9, 0xd⟩, ⟨0x1c, 0x20⟩, ⟨0x85, 0x85⟩, ⟨0xa0, 0xa0⟩, ⟨0x1680, 0x1680⟩, ⟨0x2000, 0x200a⟩,
   ⟨0x2028, 0x2029⟩, ⟨0x202f, 0x202f⟩, ⟨0x205f, 0x205f⟩, ⟨0x3000, 0x3000⟩]

/-- A white-space character. -/
def isBlank (c : Char) : Bool := Span.anyCovers blankSpans c.toNat

/-- The text without the characters of the class `p` that it ends with. -/
def dropRightWhile (p : Char → Bool) (cs : List Char) : List Char :=
  (cs.reverse.dropWhile p).reverse

/-- The text without the characters of the class `p` at its two ends. -/
def trimWhile (p : Char → Bool) (cs : List Char) : List Char :=
  dropRightWhile p (cs.dropWhile p)

/-- The text without surrounding blanks; blanks inside stay. -/
def strip (cs : List Char) : List Char := trimWhile isBlank cs

end IsaNames.Text
