import IsaNames.Fault
import IsaNames.Text.Key

/-!
# Lexicons

A lexicon relates names and IDs both ways.  For input it takes any number of names for an ID, in
any spelling; for output each ID has at most one name to be shown by, in the spelling declared.  A
lexicon is only asked; what is written is a `Lexicon.Draft`.

## Main definitions

* `Lexicon` — the names, each under its key, and the names shown.
* `Lexicon.idOf` — the ID that a name stands for.
* `Lexicon.display` — what an ID is shown by.
* `Lexicon.aliases` — the other names of an ID.
-/

namespace IsaNames

/-- Names with the IDs they stand for, and the names that IDs are shown by. -/
structure Lexicon where
  /-- What the names are names of. -/
  kind : String
  /-- What is put before an ID that has no name to be shown by. -/
  fallback : String
  /-- Whether spellings that differ in case alone are the same name. -/
  foldCase : Bool := true
  /-- Whose names they are. -/
  owner : Option String := none
  /-- The keys of the names in the order of their first use, with their IDs. -/
  entries : List (String × Int) := []
  /-- The names that IDs are shown by, as declared. -/
  displays : List (Int × String) := []
  deriving DecidableEq, Repr, Inhabited

/-- What stands for an ID without a name. -/
def fallbackPhrase (fallback : String) (id : Int) : Text.Phrase := fallback ++ id

namespace Lexicon

/-- The word before a register ID that has no name. -/
def registerFallback : String := "R???"

/-- The word before an opcode that has no name. -/
def opcodeFallback : String := "A???"

/-- What a name is looked up under. -/
def key (x : Lexicon) (name : String) : String := Text.key x.foldCase name

/-! ### From names to IDs -/

/-- The ID that a name stands for, if it is known. -/
def idOf? (x : Lexicon) (name : String) : Option Int := x.entries.lookup (x.key name)

/-- The ID that a name stands for; the complaint about an unknown one quotes it as it was given. -/
def idOf (x : Lexicon) (name : String) : Except Miss Int :=
  match x.idOf? name with
  | some id => .ok id
  | none => .error ⟨x.kind, name⟩

theorem idOf_eq_ok_iff {x : Lexicon} {name : String} {id : Int} :
    x.idOf name = .ok id ↔ x.idOf? name = some id := by
  unfold idOf
  cases x.idOf? name <;> simp

/-- Whether a name is known. -/
def contains (x : Lexicon) (name : String) : Bool := (x.idOf? name).isSome

/-- The keys of all names, in the order of their first use. -/
def names (x : Lexicon) : List String := x.entries.map (·.1)

/-- The number of names. -/
def size (x : Lexicon) : Nat := x.entries.length

/-! ### From IDs to names -/

/-- The name that an ID is shown by, if it has one. -/
def display? (x : Lexicon) (id : Int) : Option String := x.displays.lookup id

/-- What an ID is shown by: its name, or else the fallback followed by the ID. -/
def display (x : Lexicon) (id : Int) : Text.Phrase :=
  match x.display? id with
  | some name => name
  | none => fallbackPhrase x.fallback id

/-- Whether an ID has a name to be shown by. -/
def hasDisplay (x : Lexicon) (id : Int) : Bool := (x.display? id).isSome

/-- The keys that stand for an ID, without the one of the name it is shown by, in the order of
their first use. -/
def aliases (x : Lexicon) (id : Int) : List String :=
  let shown := (x.display? id).map x.key
  (x.entries.filter fun entry => entry.2 == id && some entry.1 != shown).map (·.1)

/-- The IDs that have a name to be shown by, in increasing order, with that name. -/
def displayed (x : Lexicon) : List (Int × String) :=
  x.displays.mergeSort fun a b => a.1 ≤ b.1

/-- The first of `count` IDs from `id` on that has no name to be shown by. -/
def firstUnnamed? (x : Lexicon) : Nat → Int → Option Int
  | 0, _ => none
  | count + 1, id => if x.hasDisplay id then x.firstUnnamed? count (id + 1) else some id

end Lexicon

end IsaNames
