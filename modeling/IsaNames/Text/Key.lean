import IsaNames.Text.Blank
import IsaNames.Text.Case

/-!
# Keys of names

Two spellings stand for the same name when they have the same key: the text without surrounding
blanks and, where case does not matter, in lower case.

## Main definitions

* `stripped` — a name as it is shown, without surrounding blanks.
* `key` — what a name is looked up under.
-/

namespace IsaNames.Text

/-- The name without surrounding blanks. -/
def stripped (name : String) : String := String.ofList (strip name.toList)

/-- The key of a name; with `foldCase`, spellings that differ in case alone share it. -/
def key (foldCase : Bool) (name : String) : String :=
  let bare := strip name.toList
  String.ofList (if foldCase then lower bare else bare)

/-- The upper case of a text. -/
def uppercased (text : String) : String := String.ofList (upper text.toList)

end IsaNames.Text
