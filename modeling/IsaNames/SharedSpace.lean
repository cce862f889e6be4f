import IsaNames.Declaration
import IsaNames.Directory
import IsaNames.Lexicon.Draft

/-!
# The shared space of IDs

All architectures take their IDs from one space of registers and one of opcodes.  While the space is
open, ranges are handed out and architectures attached; closing it yields the directory that IDs are
looked up in.  The generic mnemonics hold the first opcodes from the start.

## Main definitions

* `SharedSpace` — the holdings so far and the architectures attached.
* `SharedSpace.create` — a space that holds nothing but the generic opcodes.
* `SharedSpace.claim` — hands out one range.
* `SharedSpace.enter` — hands out the ranges of an architecture and attaches it.
* `SharedSpace.close` — ends the registration.
-/

namespace IsaNames

/-- The space of IDs while ranges are handed out. -/
structure SharedSpace (ε : Type) where
  /-- The mnemonics that all architectures share. -/
  generic : List String
  genericNames : Lexicon
  registers : List (Holding ε) := []
  opcodes : List (Holding ε) := []
  architectures : List Architecture := []
  /-- The directory that was made when the space was closed. -/
  closedAs : Option (Directory ε) := none

namespace SharedSpace

variable {ε : Type}

/-- The owner of the generic opcodes. -/
def genericOwner : String := "generic"

/-- The holdings of a category in the order of their registration. -/
def holdings (s : SharedSpace ε) : Category → List (Holding ε)
  | .registers => s.registers
  | .opcodes => s.opcodes

/-- The space with one more holding. -/
def add (s : SharedSpace ε) (category : Category) (h : Holding ε) : SharedSpace ε :=
  match category with
  | .registers => { s with registers := s.registers ++ [h] }
  | .opcodes => { s with opcodes := s.opcodes ++ [h] }

/-! ### Checks -/

/-- A closed space refuses every write. -/
def checkOpen (s : SharedSpace ε) (write : SpaceWrite) (owner : String) : Except Flaw Unit :=
  if s.closedAs.isSome then .error ⟨.closedSpace write, some owner⟩ else .ok ()

/-- Refuses a range that overlaps an earlier one of the category; the first such one is named. -/
def checkFree (s : SharedSpace ε) (category : Category) (range : IdRange) (owner : String) :
    Except Flaw Unit := do
  s.checkOpen (.range category) owner
  match (s.holdings category).find? fun h => h.range.overlaps range with
  | some h => .error ⟨.rangesOverlap category range h.range h.owner, some owner⟩
  | none => .ok ()

/-- Refuses the name of an architecture that is attached already. -/
def checkNew (s : SharedSpace ε) (a : Architecture) : Except Flaw Unit :=
  if s.architectures.any (·.name == a.name) then .error ⟨.registeredTwice a.name, some a.name⟩
  else .ok ()

/-- Whether an architecture can be registered as a whole; nothing is written. -/
def checkAdmissible (s : SharedSpace ε) (a : Architecture) : Except Flaw Unit := do
  s.checkOpen .architecture a.name
  s.checkNew a
  s.checkFree .registers a.registerRange a.name
  s.checkFree .opcodes a.opcodeRange a.name

/-! ### Writes -/

/-- The record that tells that a range was handed out. -/
def claimRecord (category : Category) (range : IdRange) (owner : String) : Log.Record :=
  Log.Part.space.record Log.Level.debug
    (owner ++ ": rango de " ++ category.word ++ " " ++ range.phrase ++ " registrado")

/-- Hands out a range. -/
def claim (category : Category) (range : IdRange) (namer : Namer ε) (owner : String) :
    Action (SharedSpace ε) Unit :=
  Action.replace fun s => do
    Traced.flawed (s.checkFree category range owner)
    Traced.note (claimRecord category range owner)
    return s.add category ⟨range, namer, owner⟩

/-- Makes the names of an architecture available. -/
def attach (a : Architecture) : Action (SharedSpace ε) Unit :=
  Action.replace fun s => do
    Traced.flawed (s.checkOpen .attachment a.name)
    Traced.flawed (s.checkNew a)
    return { s with architectures := s.architectures ++ [a] }

/-- Registers an architecture: the check that nothing is in the way comes first, then the writes. -/
def enter (a : Architecture) : Action (SharedSpace ε) Unit := do
  let s ← Action.read
  Action.lift (Traced.flawed (s.checkAdmissible a))
  claim .registers a.registerRange (.ofLexicon a.registers) a.name
  claim .opcodes a.opcodeRange (.ofLexicon a.opcodes) a.name
  attach a

/-! ### Beginning and end -/

/-- A space in which only the generic opcodes are handed out. -/
def create (generic : List String) : Traced (SharedSpace ε) := do
  let draft := Lexicon.Draft.empty Miss.instruction Lexicon.opcodeFallback true (some genericOwner)
  let draft ← Traced.flawed (draft.declareFrom 0 generic)
  let genericNames := draft.closed
  (claim .opcodes (genericRange generic) (.ofLexicon genericNames) genericOwner).final
    { generic, genericNames }

/-- The directory of what has been registered. -/
def directory (s : SharedSpace ε) : Directory ε :=
  ⟨.ofList s.registers, .ofList s.opcodes, s.architectures⟩

/-- Names in a row. -/
def listed (names : List String) : String := ", ".intercalate names

/-- The record that tells that the space was closed. -/
def closeRecord (names : List String) : Log.Record :=
  Log.Part.space.record Log.Level.debug
    ("espacio de nombres congelado: " ++ if listed names = "" then "(vacío)" else listed names)

/-- Ends the registration; the first closing makes the directory. -/
def close : Action (SharedSpace ε) (Directory ε) := fun s =>
  match s.closedAs with
  | some d => (s, pure d)
  | none =>
    let d := s.directory
    ({ s with closedAs := some d }, ⟨[closeRecord d.names], .ok d⟩)

end SharedSpace

end IsaNames
