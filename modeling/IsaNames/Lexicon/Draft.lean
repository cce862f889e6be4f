import IsaNames.Lexicon
import IsaNames.Traced

/-!
# Drafts of lexicons

While a lexicon is written it is a draft.  Every write is checked, and a refused write leaves the
draft as it was.  Closing a draft yields the lexicon as it then is and ends the writing.

## Main definitions

* `Lexicon.Draft` — a lexicon and whether it has been closed.
* `Draft.assign`, `Draft.link`, `Draft.setDisplay` — the writes.
* `Draft.requireDisplays` — the check that a range of IDs is complete.
* `Draft.close` — the end of writing.
* `Draft.Call`, `Draft.perform` — the calls on a draft as data, for runs of them.
-/

namespace IsaNames.Lexicon

/-- A lexicon that can be written to until it is closed. -/
structure Draft where
  content : Lexicon
  /-- The lexicon as it was when it was closed. -/
  closedAs : Option Lexicon := none
  deriving DecidableEq, Repr, Inhabited

namespace Draft

/-- A draft without any names. -/
def empty (kind fallback : String) (foldCase : Bool) (owner : Option String) : Draft :=
  ⟨{ kind, fallback, foldCase, owner }, none⟩

/-- A flaw of the draft belongs to the owner of its names. -/
def flaw (d : Draft) (cause : FlawCause) : Flaw := ⟨cause, d.content.owner⟩

/-- Whether the writing has ended. -/
def isClosed (d : Draft) : Bool := d.closedAs.isSome

/-! ### Writing -/

/-- The flaw of a write to a closed draft. -/
def closedFlaw (d : Draft) (write : NameWrite) : Flaw :=
  d.flaw (.closedNames d.content.kind write)

/-- Makes a name stand for an ID.  It may already do so, but not stand for another one. -/
def assign (d : Draft) (name : String) (id : Int) : Except Flaw Draft :=
  let key := d.content.key name
  if d.isClosed then .error (d.closedFlaw .assign)
  else if key = "" then .error (d.flaw (.emptyName d.content.kind id))
  else match d.content.entries.lookup key with
    | some old => if old = id then .ok d else .error (d.flaw (.reassigned key old id))
    | none => .ok { d with content.entries := d.content.entries ++ [(key, id)] }

/-- Makes a name stand for what another one stands for, and tells which ID that is. -/
def link (d : Draft) (name target : String) : Except Flaw (Draft × Int) :=
  if d.isClosed then .error (d.closedFlaw .link)
  else match d.content.idOf? target with
    | some id => (d.assign name id).map (·, id)
    | none => .error (d.flaw (.danglingAlias (d.content.key name) (d.content.key target)))

/-- Makes an ID be shown by a name that stands for it.  The first spelling stays; later ones have to
have the same key. -/
def setDisplay (d : Draft) (id : Int) (name : String) : Except Flaw Draft :=
  let shown := Text.stripped name
  if d.isClosed then .error (d.closedFlaw .display)
  else if d.content.idOf? shown ≠ some id then .error (d.flaw (.strayDisplay shown id))
  else match d.content.display? id with
    | some old =>
      if d.content.key old = d.content.key shown then .ok d
      else .error (d.flaw (.displayTaken d.content.kind id old shown))
    | none => .ok { d with content.displays := d.content.displays ++ [(id, shown)] }

/-- Makes a name stand for an ID that is shown by it. -/
def declare (d : Draft) (name : String) (id : Int) : Except Flaw Draft := do
  (← d.assign name id).setDisplay id name

/-- Declares names for consecutive IDs from `first` on, each ID shown by its name. -/
def declareFrom (d : Draft) (first : Int) : List String → Except Flaw Draft
  | [] => .ok d
  | name :: rest => do declareFrom (← d.declare name first) (first + 1) rest

/-! ### Completeness -/

/-- Refuses the draft if an ID of the range has no name to be shown by, and reports the first. -/
def requireDisplays (d : Draft) (range : IdRange) : Except Flaw Unit :=
  match d.content.firstUnnamed? range.size range.base with
  | some id => .error (d.flaw (.unnamed d.content.kind id (id - range.base) range))
  | none => .ok ()

/-- The record that tells that a range is complete. -/
def completeRecord (d : Draft) (range : IdRange) : Log.Record :=
  Log.Part.lexicons.record Log.Level.debug
    ("tabla de " ++ d.content.kind ++ " completa en " ++ range.phrase ++
      " (" ++ d.content.owner.getD "None" ++ ")")

/-- The check for completeness, with its records. -/
def validate (d : Draft) (range : IdRange) : Traced Unit := do
  Traced.flawed (d.requireDisplays range)
  Traced.note (d.completeRecord range)

/-! ### Closing -/

/-- The lexicon that a closed draft answers with; the first closing decides. -/
def closed (d : Draft) : Lexicon := d.closedAs.getD d.content

/-- Ends the writing. -/
def close (d : Draft) : Draft := { d with closedAs := some d.closed }

/-! ### Calls as data -/

/-- A call on a draft. -/
inductive Call
  | assign (name : String) (id : Int)
  | link (name target : String)
  | setDisplay (id : Int) (name : String)
  | validate (range : IdRange)
  | close
  deriving DecidableEq, Repr

/-- What a call answers with. -/
inductive Reply
  | done
  | id (id : Int)
  | closed (lexicon : Lexicon)
  deriving DecidableEq, Repr

/-- Carries out a call; a refused one leaves the draft as it was. -/
def perform : Call → Action Draft Reply
  | .assign name id => do
    Action.replace fun d => Traced.flawed (d.assign name id)
    return .done
  | .link name target => fun d =>
    match d.link name target with
    | .error f => (d, Traced.raise f)
    | .ok (d', id) => (d', pure (.id id))
  | .setDisplay id name => do
    Action.replace fun d => Traced.flawed (d.setDisplay id name)
    return .done
  | .validate range => fun d => (d, do d.validate range; return .done)
  | .close => fun d => (d.close, pure (.closed d.closed))

end Draft

end IsaNames.Lexicon
