import IsaNames.Architecture.Build
import IsaNames.SharedSpace

/-!
# Providers of architectures

A provider has the declaration of one architecture.  It builds the architecture once, keeps it, and
registers it in one shared space.

## Main definitions

* `Provider` — a declaration and what has become of it.
* `Provider.build` — the architecture, built at the first call that succeeds.
* `Provider.register` — registers the architecture in a space.
-/

namespace IsaNames

/-- A declaration, and what has become of it. -/
structure Provider where
  declaration : Declaration
  /-- The architecture that was built, with the generic mnemonics it was built with. -/
  built : Option (Architecture × List String) := none
  registered : Bool := false
  deriving DecidableEq, Repr

namespace Provider

/-- The name of the architecture. -/
def name (p : Provider) : String := p.declaration.name

/-- A flaw of the provider belongs to its architecture. -/
def flaw (p : Provider) (cause : FlawCause) : Flaw := ⟨cause, some p.name⟩

/-- The record that tells that an architecture with this many registers was built. -/
def buildRecord (p : Provider) (a : Architecture) (registers : Nat) : Log.Record :=
  Log.Part.providers.record Log.Level.debug
    (p.name ++ ": " ++ (registers : Int) ++ " registros en " ++ a.registerRange.phrase ++ ", " ++
      (p.declaration.mnemonics.length : Int) ++ " opcodes específicos en " ++ a.opcodeRange.phrase)

/-- The report on a finished architecture, which has to tell the number of its registers. -/
def reportBuild (p : Provider) (a : Architecture) : Traced Architecture :=
  match a.registerRange.length? with
  | some registers => do
    Traced.note (p.buildRecord a registers)
    return a
  | none => Traced.fail .tooLong

/-- The architecture of the declaration.  Once built it is kept, and other generic mnemonics than
those it was built with are refused. -/
def build (generic : List String) : Action Provider Architecture := fun p =>
  match p.built with
  | some (a, earlier) =>
    (p, if earlier = generic then pure a else Traced.raise (p.flaw .otherGeneric))
  | none =>
    match p.declaration.build generic with
    | ⟨log, .error e⟩ => (p, ⟨log, .error e⟩)
    | ⟨log, .ok a⟩ =>
      let report := p.reportBuild a
      ({ p with built := some (a, generic) }, ⟨log ++ report.log, report.outcome⟩)

/-- Registers the architecture in a space, built with the generic mnemonics of that space; a
provider does so once. -/
def register {ε : Type} : Action (SharedSpace ε × Provider) Architecture := do
  let (space, p) ← Action.read
  if p.registered then
    Action.lift (Traced.raise (p.flaw (.registeredTwice p.name)))
  else
    let a ← Action.onSecond (build space.generic)
    Action.onFirst (SharedSpace.enter a)
    Action.onSecond (Action.update fun p => { p with registered := true })
    return a

end Provider

end IsaNames
