/-!
# Spans of code points

A class of characters is kept as a list of spans, each a first and a last code point.

## Main definitions

* `Span` — an inclusive interval of code points.
* `Span.anyCovers` — whether a code point lies in one of several spans.
-/

namespace IsaNames.Text

/-- The code points from `first` to `last`, both included. -/
structure Span where
  first : Nat
  last : Nat
  deriving DecidableEq, Repr

namespace Span

/-- Whether `n` lies in the span. -/
def covers (s : Span) (n : Nat) : Bool := s.first ≤ n && n ≤ s.last

/-- Whether `n` lies in one of the spans. -/
def anyCovers (spans : List Span) (n : Nat) : Bool := spans.any (·.covers n)

end Span

end IsaNames.Text
