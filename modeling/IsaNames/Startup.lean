import IsaNames.Provider

/-!
# Start-up

A program starts with a fresh space: it registers its architectures one after the other and closes
the space.  The first fault ends the start; there is no half-filled directory.

## Main definitions

* `Startup.run` — the start with any way of registering the items of a list.
* `Startup.ofDeclarations` — the start with a fresh provider for each declaration.
-/

namespace IsaNames.Startup

variable {ι σ ε α : Type}

/-- The record that tells that the directory is ready. -/
def readyRecord (names : List String) : Log.Record :=
  Log.Part.startup.record Log.Level.info ("espacio de nombres listo: " ++ SharedSpace.listed names)

/-- Registers items in order until one fails. -/
def registerAll (register : ι → Action (σ × SharedSpace ε) α) : List ι →
    Action (σ × SharedSpace ε) Unit
  | [] => pure ()
  | item :: rest => do
    let _ ← register item
    registerAll register rest

/-- Registers items in a fresh space and closes it. -/
def run (generic : List String) (register : ι → Action (σ × SharedSpace ε) α)
    (items : List ι) : Action σ (Directory ε) :=
  Action.within (SharedSpace.create generic) do
    registerAll register items
    let directory ← Action.onSecond SharedSpace.close
    Action.lift (Traced.note (readyRecord directory.names))
    return directory

/-- Registers the architecture of a declaration by a provider made for it. -/
def registerFresh (d : Declaration) : Action (Unit × SharedSpace ε) Architecture :=
  Action.onSecond (Action.within (pure { declaration := d }) Provider.register)

/-- The directory of a list of declarations. -/
def ofDeclarations (generic : List String) (declarations : List Declaration) :
    Traced (Directory ε) :=
  (run generic registerFresh declarations ()).2

end IsaNames.Startup
