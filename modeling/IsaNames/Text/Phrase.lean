import IsaNames.Text.DigitLimit

/-!
# Texts with numbers in them

A phrase is put together from words and integers.  It has a text, but it can only be written if
none of its integers is too long; the words may be of any length.

## Main definitions

* `Phrase` — a text and whether it can be written.
* `Phrase.ofString`, `Phrase.ofInt`, `++` — how phrases are put together.
* `Phrase.write?` — the text if it can be written.
-/

namespace IsaNames.Text

/-- A text made of words and integers. -/
structure Phrase where
  /-- The text, however long its integers are. -/
  text : String
  /-- Whether no integer in the text is too long. -/
  isWritable : Bool := true
  deriving DecidableEq, Repr, Inhabited

namespace Phrase

/-! ### Putting phrases together -/

/-- Words alone. -/
def ofString (words : String) : Phrase := ⟨words, true⟩

/-- An integer in decimal. -/
def ofInt (n : Int) : Phrase := ⟨toString n, Text.isWritable n⟩

instance : Coe String Phrase := ⟨ofString⟩

instance : Coe Int Phrase := ⟨ofInt⟩

instance : Append Phrase := ⟨fun p q => ⟨p.text ++ q.text, p.isWritable && q.isWritable⟩⟩

@[simp] theorem text_ofString (words : String) : (ofString words).text = words := rfl

@[simp] theorem text_ofInt (n : Int) : (ofInt n).text = toString n := rfl

@[simp] theorem text_append (p q : Phrase) : (p ++ q).text = p.text ++ q.text := rfl

@[simp] theorem isWritable_ofString (words : String) : (ofString words).isWritable = true := rfl

@[simp] theorem isWritable_ofInt (n : Int) : (ofInt n).isWritable = Text.isWritable n := rfl

@[simp] theorem isWritable_append (p q : Phrase) :
    (p ++ q).isWritable = (p.isWritable && q.isWritable) := rfl

/-! ### Writing phrases -/

/-- The text, if it can be written. -/
def write? (p : Phrase) : Option String := if p.isWritable then some p.text else none

/-- The text, or else the complaint that it cannot be written. -/
def shown (p : Phrase) : String := p.write?.getD digitLimitComplaint

end Phrase

end IsaNames.Text
