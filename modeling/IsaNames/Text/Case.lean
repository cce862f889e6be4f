import IsaNames.Text.CaseData
import IsaNames.Text.WordContext

/-!
# Lower and upper case of a text

Lower case is a function of a character and its place: a capital sigma that ends a word becomes the
final form, any other one the medial form, and a dotted capital I becomes two characters.  Every
other character is mapped on its own, and so is every character for upper case.

## Main definitions

* `endsWord` — whether the place between two parts of a text is the end of a word.
* `lower`, `upper` — the case mappings of a text.
-/

namespace IsaNames.Text

/-! ### Lower case -/

/-- Whether the nearest character that counts, if there is one, is a cased letter. -/
def meetsLetter (cs : List Char) : Bool :=
  (cs.dropWhile isCaseIgnorable).head?.any isCased

/-- Whether a letter between `before`, read backwards, and `after` is the last of a word: a letter
comes before it and none after it. -/
def endsWord (before after : List Char) : Bool :=
  meetsLetter before && !meetsLetter after

/-- The lower case of `c` between `before`, read backwards, and `after`. -/
def lowerAt (before : List Char) (c : Char) (after : List Char) : List Char :=
  if c = 'Σ' then
    if endsWord before after then ['ς'] else ['σ']
  else if c = 'İ' then
    ['i', '\u0307']
  else
    [Char.ofNat (CaseRun.map lowerRuns c.toNat)]

/-- The lower case of a text that follows `before`, read backwards. -/
def lowerFrom : List Char → List Char → List Char
  | _, [] => []
  | before, c :: after => lowerAt before c after ++ lowerFrom (c :: before) after

/-- The lower case of a text. -/
def lower (cs : List Char) : List Char := lowerFrom [] cs

/-! ### Upper case -/

/-- The upper case of a character, of one or more characters. -/
def upperChar (c : Char) : List Char :=
  match upperExpansions.lookup c.toNat with
  | some ns => ns.map Char.ofNat
  | none => [Char.ofNat (CaseRun.map upperRuns c.toNat)]

/-- The upper case of a text. -/
def upper (cs : List Char) : List Char := cs.flatMap upperChar

end IsaNames.Text
