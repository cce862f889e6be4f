import IsaNames.Builtin
import IsaNames.Startup

/-!
# Workspaces

A workspace keeps drafts of lexicons, providers and shared spaces side by side, numbered in the
order in which they were made, and carries out operations on them.  The namer of a holding may
consult a draft of the workspace, so what a directory shows can depend on drafts that are still
written.

## Main definitions

* `Workspace` — the objects.
* `Workspace.Operation`, `Workspace.Answer` — operations as data.
* `Workspace.perform` — carries out an operation.
* `Workspace.liveNamer` — spells out IDs as a draft shows them at that moment.
-/

namespace IsaNames

/-- Drafts, providers and shared spaces, numbered in the order in which they were made. -/
structure Workspace where
  drafts : List Lexicon.Draft := []
  providers : List Provider := []
  spaces : List (SharedSpace (List Lexicon.Draft)) := []

namespace Workspace

/-- What is looked up in a space of a workspace, where namers may consult the drafts. -/
abbrev LiveDirectory := Directory (List Lexicon.Draft)

/-- Spells out IDs as the draft of the given number shows them at that moment. -/
def liveNamer (draft : Nat) : Namer (List Lexicon.Draft) := fun drafts id =>
  (drafts[draft]?).elim "" (·.content.display id)

/-! ### Operations as data -/

/-- An operation; objects are given by their numbers. -/
inductive Operation
  | newDraft (kind fallback : String) (foldCase : Bool) (owner : Option String)
  | callDraft (draft : Nat) (call : Lexicon.Draft.Call)
  | newProvider (declaration : Declaration)
  | build (provider : Nat) (generic : List String)
  | newSpace (generic : List String)
  | register (provider space : Nat)
  | claim (space : Nat) (category : Category) (range : IdRange)
      (namer : Namer (List Lexicon.Draft)) (owner : String)
  | check (space : Nat) (architecture : Architecture)
  | attach (space : Nat) (architecture : Architecture)
  | close (space : Nat)
  | startUp (generic : List String) (providers : List Nat)

/-- What an operation answers with. -/
inductive Answer
  /-- There is no object of such a number. -/
  | absent
  | done
  /-- An object was made and has this number. -/
  | made (number : Nat)
  | reply (reply : Lexicon.Draft.Reply)
  | architecture (architecture : Architecture)
  | directory (directory : LiveDirectory)

/-! ### Carrying operations out -/

/-- An action on the object of the given number in a list; nothing happens if there is none. -/
def onItem {τ α : Type} (i : Nat) (x : Action τ α) : Action (List τ) (Option α) := fun items =>
  match items[i]? with
  | none => (items, pure none)
  | some item =>
    let (item', ⟨log, outcome⟩) := x item
    (items.set i item', ⟨log, outcome.map some⟩)

/-- An action on the drafts. -/
def onDrafts {α : Type} (x : Action (List Lexicon.Draft) α) : Action Workspace α := fun w =>
  let (drafts, y) := x w.drafts
  ({ w with drafts }, y)

/-- An action on the providers. -/
def onProviders {α : Type} (x : Action (List Provider) α) : Action Workspace α := fun w =>
  let (providers, y) := x w.providers
  ({ w with providers }, y)

/-- An action on the spaces. -/
def onSpaces {α : Type} (x : Action (List (SharedSpace (List Lexicon.Draft))) α) :
    Action Workspace α := fun w =>
  let (spaces, y) := x w.spaces
  ({ w with spaces }, y)

/-- Registers the architecture of the provider of the given number in a space. -/
def registerItem {ε : Type} (provider : Nat) :
    Action (List Provider × SharedSpace ε) (Option Architecture) := fun (providers, space) =>
  match providers[provider]? with
  | none => ((providers, space), pure none)
  | some p =>
    let ((space', p'), ⟨log, outcome⟩) := Provider.register (space, p)
    ((providers.set provider p', space'), ⟨log, outcome.map some⟩)

/-- Registers the architecture of a provider in a space, both given by number. -/
def registerBoth (provider space : Nat) : Action Workspace (Option Architecture) := fun w =>
  match w.spaces[space]? with
  | none => (w, pure none)
  | some s =>
    let ((providers, s'), y) := registerItem provider (w.providers, s)
    ({ w with providers, spaces := w.spaces.set space s' }, y)

/-- The answer about an object that may not be there. -/
def answer {α : Type} (f : α → Answer) : Option α → Answer := fun result => result.elim .absent f

/-- Carries out an operation. -/
def perform : Operation → Action Workspace Answer
  | .newDraft kind fallback foldCase owner => do
    let w ← Action.read
    Action.update fun w =>
      { w with drafts := w.drafts ++ [Lexicon.Draft.empty kind fallback foldCase owner] }
    return .made w.drafts.length
  | .callDraft draft call => do
    return answer .reply (← onDrafts (onItem draft (Lexicon.Draft.perform call)))
  | .newProvider declaration => do
    let w ← Action.read
    Action.update fun w => { w with providers := w.providers ++ [{ declaration }] }
    return .made w.providers.length
  | .build provider generic => do
    return answer .architecture (← onProviders (onItem provider (Provider.build generic)))
  | .newSpace generic => do
    let w ← Action.read
    let space ← Action.lift (SharedSpace.create generic)
    Action.update fun w => { w with spaces := w.spaces ++ [space] }
    return .made w.spaces.length
  | .register provider space => do
    return answer .architecture (← registerBoth provider space)
  | .claim space category range namer owner => do
    return answer (fun _ => .done)
      (← onSpaces (onItem space (SharedSpace.claim category range namer owner)))
  | .check space a => do
    return answer (fun _ => .done)
      (← onSpaces (onItem space do
        Action.lift (Traced.flawed ((← Action.read).checkAdmissible a))))
  | .attach space a => do
    return answer (fun _ => .done) (← onSpaces (onItem space (SharedSpace.attach a)))
  | .close space => do
    return answer .directory (← onSpaces (onItem space SharedSpace.close))
  | .startUp generic providers => do
    return .directory (← onProviders (Startup.run generic registerItem providers))

end Workspace

end IsaNames
