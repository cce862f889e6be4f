import IsaNames.Proofs.Build
import IsaNames.Proofs.Space
import IsaNames.Startup
import Mathlib.Data.List.Forall2

/-!
# What a start leads to

A start that succeeds has registered one architecture for each declaration, in order, and its
directory answers for these and for the generic mnemonics and for nothing else.  Each registration
looks only at what came before it; taken together they ask that any two of the architectures be
compatible.

## Main definitions

* `Architecture.registerHolding`, `Architecture.opcodeHolding` — what an architecture holds.
* `Architecture.Compatible` — two architectures can be registered in one space.
* `SharedSpace.enteredAll` — the space after several architectures were registered in it.
* `Declaration.BuildsInto` — what a new provider of a declaration builds.

## Main results

* `SharedSpace.admits_enteredAll_iff` — what stands in the way of one more architecture.
* `Startup.ends_registerAll_ok_iff` — when a run of registrations succeeds, and what it leaves.
* `Startup.ofDeclarations_eq_ok_iff` — when a start succeeds, and with which directory.
* `Startup.ofDeclarations_spec` — **the directory of a start is that of the architectures that its
  declarations are built into.**
-/

namespace List

/-- Each element of the second of two related lists is related to one of the first. -/
theorem exists_of_forall₂_of_mem {α β : Type} {r : α → β → Prop} {l : List α} {l' : List β}
    (h : Forall₂ r l l') {b : β} (hb : b ∈ l') : ∃ a, r a b := by
  induction h with
  | nil => cases hb
  | cons hr _ ih =>
    rcases mem_cons.mp hb with rfl | hb
    · exact ⟨_, hr⟩
    · exact ih hb

end List

namespace IsaNames

variable {ε : Type}

/-- The registers of an architecture as a holding. -/
def Architecture.registerHolding (a : Architecture) : Holding ε :=
  ⟨a.registerRange, .ofLexicon a.registers, a.name⟩

/-- The opcodes of an architecture as a holding. -/
def Architecture.opcodeHolding (a : Architecture) : Holding ε :=
  ⟨a.opcodeRange, .ofLexicon a.opcodes, a.name⟩

/-- The generic mnemonics as a holding. -/
def genericHolding (generic : List String) : Holding ε :=
  ⟨genericRange generic, .ofLexicon (genericDraft SharedSpace.genericOwner generic).content,
    SharedSpace.genericOwner⟩

/-- Two architectures can be registered in one space: their names differ, and neither their registers
nor their opcodes overlap. -/
structure Architecture.Compatible (a b : Architecture) : Prop where
  name_ne : a.name ≠ b.name
  registers_apart : a.registerRange.overlaps b.registerRange = false
  opcodes_apart : a.opcodeRange.overlaps b.opcodeRange = false

/-- A new provider of the declaration builds the architecture. -/
abbrev Declaration.BuildsInto (generic : List String) (d : Declaration) (a : Architecture) : Prop :=
  (Provider.build generic { declaration := d }).2.outcome = .ok a

/-- The generic mnemonics can be declared: none of them is blank, and their keys differ. -/
structure GenericWellFormed (generic : List String) : Prop where
  key_ne_empty : ∀ name ∈ generic, Text.key true name ≠ ""
  nodup : (generic.map (Text.key true)).Nodup

namespace SharedSpace

/-! ### Several architectures -/

/-- The space after several architectures were registered in it, one after the other. -/
def enteredAll (s : SharedSpace ε) (as : List Architecture) : SharedSpace ε :=
  { s with
    registers := s.registers ++ as.map Architecture.registerHolding
    opcodes := s.opcodes ++ as.map Architecture.opcodeHolding
    architectures := s.architectures ++ as }

@[simp] theorem enteredAll_nil (s : SharedSpace ε) : s.enteredAll [] = s := by
  simp [enteredAll]

theorem enteredAll_entered (s : SharedSpace ε) (a : Architecture) (as : List Architecture) :
    (s.entered a).enteredAll as = s.enteredAll (a :: as) := by
  simp [enteredAll, entered, Architecture.registerHolding, Architecture.opcodeHolding]

/-- An architecture that was registered stands in the way of those that are not compatible with
it. -/
theorem admits_entered_iff {s : SharedSpace ε} {a b : Architecture} :
    (s.entered a).Admits b ↔ s.Admits b ∧ a.Compatible b := by
  constructor
  · intro h
    have hnames := List.forall_mem_append.mp h.lacks
    have hregs := List.forall_mem_append.mp h.registersFree
    have hops := List.forall_mem_append.mp h.opcodesFree
    rw [List.forall_mem_singleton] at hnames hregs hops
    exact ⟨⟨h.isOpen, hnames.1, hregs.1, hops.1⟩, ⟨hnames.2, hregs.2, hops.2⟩⟩
  · rintro ⟨h, hab⟩
    refine ⟨h.isOpen, List.forall_mem_append.mpr ⟨h.lacks, ?_⟩,
      List.forall_mem_append.mpr ⟨h.registersFree, ?_⟩,
      List.forall_mem_append.mpr ⟨h.opcodesFree, ?_⟩⟩
    · rw [List.forall_mem_singleton]
      exact hab.name_ne
    · rw [List.forall_mem_singleton]
      exact hab.registers_apart
    · rw [List.forall_mem_singleton]
      exact hab.opcodes_apart

/-- What stands in the way of one more architecture after several were registered. -/
theorem admits_enteredAll_iff {s : SharedSpace ε} {as : List Architecture} {b : Architecture} :
    (s.enteredAll as).Admits b ↔ s.Admits b ∧ ∀ a ∈ as, a.Compatible b := by
  induction as generalizing s with
  | nil => simp
  | cons a rest ih =>
    rw [← enteredAll_entered, ih, admits_entered_iff, List.forall_mem_cons, and_assoc]

/-- Architectures that are compatible with each other, and none of which a space refuses, leave it
orderly. -/
theorem Orderly.enteredAll {s : SharedSpace ε} (hs : s.Orderly) {as : List Architecture}
    (hadmits : ∀ a ∈ as, s.Admits a) (hcompatible : as.Pairwise Architecture.Compatible) :
    (s.enteredAll as).Orderly := by
  induction as generalizing s with
  | nil =>
    rw [enteredAll_nil]
    exact hs
  | cons a rest ih =>
    rw [List.forall_mem_cons] at hadmits
    rw [List.pairwise_cons] at hcompatible
    rw [← enteredAll_entered]
    refine ih (hs.step (.entered hadmits.1)) ?_ hcompatible.2
    intro b hb
    exact admits_entered_iff.mpr ⟨hadmits.2 b hb, hcompatible.1 b hb⟩

/-! ### A new space -/

/-- A space is created exactly if the generic mnemonics can be declared, and holds them alone. -/
theorem create_eq_ok_iff_wellFormed {generic : List String} {s : SharedSpace ε} :
    (create generic).outcome = .ok s ↔ GenericWellFormed generic ∧
      s = initial generic (genericDraft genericOwner generic).content := by
  rw [create_eq_ok_iff]
  constructor
  · rintro ⟨draft, hdraft, rfl⟩
    obtain ⟨hkeys, hnodup, rfl⟩ := declareFrom_generic_eq_ok_iff.mp hdraft
    exact ⟨⟨hkeys, hnodup⟩, rfl⟩
  · rintro ⟨h, rfl⟩
    exact ⟨_, declareFrom_generic_eq_ok_iff.mpr ⟨h.key_ne_empty, h.nodup, rfl⟩, rfl⟩

/-- The space in which the generic mnemonics were declared and architectures were registered. -/
def populated (generic : List String) (as : List Architecture) : SharedSpace ε :=
  (initial generic (genericDraft genericOwner generic).content).enteredAll as

end SharedSpace

namespace Provider

/-- A provider registers an architecture exactly if it has not done so, builds it, and nothing stands
in its way. -/
theorem ends_register_ok_iff {s s' : SharedSpace ε} {p : Provider} {a : Architecture} :
    (∃ p', register.Ends (s, p) (s', p') (.ok a)) ↔ p.registered = false ∧
      (build s.generic p).2.outcome = .ok a ∧ s.Admits a ∧ s' = s.entered a := by
  rcases register_ends s p with ⟨b, q, hp, hbuild, hadmits, hends⟩ | ⟨e, q, he, -, -, hends⟩
  · constructor
    · rintro ⟨p', h⟩
      obtain ⟨hstate, ha⟩ := h.unique hends
      cases ha
      cases hstate
      exact ⟨hp, hbuild.2, hadmits, rfl⟩
    · rintro ⟨-, ha, -, rfl⟩
      rw [hbuild.2] at ha
      cases ha
      exact ⟨_, hends⟩
  · constructor
    · rintro ⟨p', h⟩
      cases (h.unique hends).2
    · rintro ⟨hp, hbuild, hadmits, -⟩
      cases he with
      | registered h => rw [hp] at h; cases h
      | notBuilt _ h => rw [hbuild] at h; cases h
      | notAdmitted _ hbuild' h =>
        rw [hbuild] at hbuild'
        cases hbuild'
        rw [SharedSpace.checkAdmissible_eq_ok_iff.mpr hadmits] at h
        cases h

/-- What a new provider builds is what its declaration is built into. -/
theorem build_of_fresh {d : Declaration} {generic : List String} {a : Architecture}
    (h : d.BuildsInto generic a) : (d.build generic).outcome = .ok a := by
  unfold Declaration.BuildsInto build at h
  rcases hbuild : d.build generic with ⟨log, _ | a'⟩
  · rw [hbuild] at h
    cases h
  · simp only [hbuild] at h
    unfold reportBuild at h
    split at h
    · cases h
      rfl
    · cases h

end Provider

/-- The opcodes of an architecture that was built come after the generic ones, so a new space does
not refuse it. -/
theorem Declaration.admits_initial_of_build {generic : List String} {d : Declaration}
    {a : Architecture} (h : (d.build generic).outcome = .ok a) (names : Lexicon) :
    (SharedSpace.initial generic names : SharedSpace ε).Admits a := by
  obtain ⟨x, ranges, -, hops, rfl⟩ := build_eq_ok_iff.mp h
  refine ⟨rfl, List.forall_mem_nil _, List.forall_mem_nil _, ?_⟩
  intro k hk
  rw [List.mem_singleton.mp hk, ← Bool.not_eq_true, IdRange.overlaps_iff, stop_genericRange]
  have := hops.length_le_base
  simp only
  omega

theorem Declaration.BuildsInto.admits_initial {generic : List String} {d : Declaration}
    {a : Architecture} (h : d.BuildsInto generic a) (names : Lexicon) :
    (SharedSpace.initial generic names : SharedSpace ε).Admits a :=
  d.admits_initial_of_build (Provider.build_of_fresh h) names

/-- Nor does it refuse any of several. -/
theorem admits_initial_of_built {generic : List String} {declarations : List Declaration}
    {as : List Architecture}
    (h : List.Forall₂ (Declaration.BuildsInto generic) declarations as) (names : Lexicon) :
    ∀ a ∈ as, (SharedSpace.initial generic names : SharedSpace ε).Admits a := by
  intro a ha
  obtain ⟨d, hd⟩ := List.exists_of_forall₂_of_mem h ha
  exact hd.admits_initial names

namespace Startup

/-! ### Runs of registrations -/

/-- A declaration is registered by a provider made for it. -/
theorem ends_registerFresh_iff {d : Declaration} {s s' : SharedSpace ε}
    {o : Except Fault Architecture} :
    (registerFresh d).Ends ((), s) ((), s') o ↔
      ∃ p', Provider.register.Ends (s, { declaration := d }) (s', p') o := by
  unfold registerFresh
  rw [Action.ends_onSecond_iff, Action.ends_within_iff]
  simp

/-- A declaration is registered exactly if it builds and nothing stands in the way. -/
theorem ends_registerFresh_ok_iff {d : Declaration} {s s' : SharedSpace ε} {a : Architecture} :
    (registerFresh d).Ends ((), s) ((), s') (.ok a) ↔
      d.BuildsInto s.generic a ∧ s.Admits a ∧ s' = s.entered a := by
  rw [ends_registerFresh_iff, Provider.ends_register_ok_iff, and_iff_right rfl]

/-- **A run of registrations succeeds exactly if each declaration builds and nothing stands in the
way**, neither in the space nor among the architectures themselves. -/
theorem ends_registerAll_ok_iff {declarations : List Declaration} {s s' : SharedSpace ε} :
    (registerAll registerFresh declarations).Ends ((), s) ((), s') (.ok ()) ↔
      ∃ as, List.Forall₂ (Declaration.BuildsInto s.generic) declarations as ∧
        (∀ a ∈ as, s.Admits a) ∧ as.Pairwise Architecture.Compatible ∧ s' = s.enteredAll as := by
  induction declarations generalizing s with
  | nil =>
    constructor
    · intro h
      cases h.1
      exact ⟨[], .nil, List.forall_mem_nil _, .nil, (SharedSpace.enteredAll_nil _).symm⟩
    · rintro ⟨as, hbuilt, -, -, rfl⟩
      cases hbuilt
      rw [SharedSpace.enteredAll_nil]
      exact Action.ends_pure _ _
  | cons d rest ih =>
    rw [registerAll, Action.ends_bind_ok_iff]
    constructor
    · rintro ⟨a, ⟨⟨⟩, s₁⟩, h₁, h₂⟩
      obtain ⟨hbuild, hadmits, rfl⟩ := ends_registerFresh_ok_iff.mp h₁
      obtain ⟨as, hbuilt, hall, hcompatible, rfl⟩ := ih.mp h₂
      simp only [SharedSpace.admits_entered_iff] at hall
      refine ⟨a :: as, .cons hbuild hbuilt, ?_, ?_, SharedSpace.enteredAll_entered s a as⟩
      · exact List.forall_mem_cons.mpr ⟨hadmits, fun b hb => (hall b hb).1⟩
      · exact List.pairwise_cons.mpr ⟨fun b hb => (hall b hb).2, hcompatible⟩
    · rintro ⟨as, hbuilt, hall, hcompatible, rfl⟩
      obtain ⟨a, as, hbuild, hrest, rfl⟩ := List.forall₂_cons_left_iff.mp hbuilt
      rw [List.forall_mem_cons] at hall
      rw [List.pairwise_cons] at hcompatible
      refine ⟨a, ((), s.entered a), ends_registerFresh_ok_iff.mpr ⟨hbuild, hall.1, rfl⟩,
        ih.mpr ⟨as, hrest, ?_, hcompatible.2, (SharedSpace.enteredAll_entered s a as).symm⟩⟩
      intro b hb
      exact SharedSpace.admits_entered_iff.mpr ⟨hall.2 b hb, hcompatible.1 b hb⟩

/-! ### Starts -/

/-- Architectures that were built and are compatible with each other make an orderly space. -/
theorem orderly_populated {generic : List String} {declarations : List Declaration}
    {as : List Architecture}
    (hbuilt : List.Forall₂ (Declaration.BuildsInto generic) declarations as)
    (hcompatible : as.Pairwise Architecture.Compatible) :
    (SharedSpace.populated generic as : SharedSpace ε).Orderly :=
  (SharedSpace.orderly_initial _ _).enteredAll (admits_initial_of_built hbuilt _) hcompatible

/-- The last steps of a start: an orderly space is closed, and its directory is the answer. -/
theorem ends_closing {s : SharedSpace ε} (hs : s.Orderly) :
    (do
      let directory ← Action.onSecond SharedSpace.close
      Action.lift (Traced.note (readyRecord directory.names))
      return directory : Action (Unit × SharedSpace ε) (Directory ε)).Ends ((), s)
        ((), { s with closedAs := some s.directory }) (.ok s.directory) :=
  hs.ends_close.onSecond.bind ((Action.ends_lift _ _).bind (Action.ends_pure _ _))

/-- A start succeeds exactly if the generic mnemonics can be declared, each declaration builds, and
the architectures are compatible with each other. -/
theorem ofDeclarations_eq_ok_iff {generic : List String} {declarations : List Declaration}
    {dir : Directory ε} :
    (ofDeclarations generic declarations).outcome = .ok dir ↔ GenericWellFormed generic ∧
      ∃ as, List.Forall₂ (Declaration.BuildsInto generic) declarations as ∧
        as.Pairwise Architecture.Compatible ∧
        dir = (SharedSpace.populated generic as).directory := by
  have hrun : (ofDeclarations generic declarations).outcome = .ok dir ↔
      (run generic registerFresh declarations).Ends () () (.ok dir) := (and_iff_right rfl).symm
  rw [hrun, run, Action.ends_within_ok_iff]
  constructor
  · rintro ⟨s, s', hcreate, hends⟩
    obtain ⟨hgeneric, rfl⟩ := SharedSpace.create_eq_ok_iff_wellFormed.mp hcreate
    obtain ⟨⟨⟩, ⟨⟨⟩, s₁⟩, hall, hends⟩ := Action.ends_bind_ok_iff.mp hends
    obtain ⟨as, hbuilt, -, hcompatible, rfl⟩ := ends_registerAll_ok_iff.mp hall
    have hclosing := ends_closing (orderly_populated (ε := ε) hbuilt hcompatible)
    exact ⟨hgeneric, as, hbuilt, hcompatible, Except.ok.inj (hends.unique hclosing).2⟩
  · rintro ⟨hgeneric, as, hbuilt, hcompatible, rfl⟩
    have hclosing := ends_closing (orderly_populated (ε := ε) hbuilt hcompatible)
    have hall : (registerAll registerFresh declarations).Ends
        ((), SharedSpace.initial generic (genericDraft SharedSpace.genericOwner generic).content)
        ((), (SharedSpace.populated generic as : SharedSpace ε)) (.ok ()) :=
      ends_registerAll_ok_iff.mpr ⟨as, hbuilt, admits_initial_of_built hbuilt _, hcompatible, rfl⟩
    exact ⟨_, _, SharedSpace.create_eq_ok_iff_wellFormed.mpr ⟨hgeneric, rfl⟩, hall.bind hclosing⟩

/-- **The directory of a start is that of the architectures that its declarations are built into.** -/
theorem ofDeclarations_spec {generic : List String} {declarations : List Declaration}
    {dir : Directory ε} (h : (ofDeclarations generic declarations).outcome = .ok dir) :
    List.Forall₂ (fun d a => (Provider.build generic { declaration := d }).2.outcome = .ok a)
        declarations dir.architectures ∧
      (Apart (dir.architectures.map Architecture.registerHolding : List (Holding ε)) ∧
        dir.registers = .ofList (dir.architectures.map Architecture.registerHolding)) ∧
      (Apart (genericHolding generic :: dir.architectures.map Architecture.opcodeHolding :
          List (Holding ε)) ∧
        dir.opcodes = .ofList
          (genericHolding generic :: dir.architectures.map Architecture.opcodeHolding)) := by
  obtain ⟨-, as, hbuilt, hcompatible, rfl⟩ := ofDeclarations_eq_ok_iff.mp h
  have horderly := orderly_populated (ε := ε) hbuilt hcompatible
  exact ⟨hbuilt, ⟨horderly.apart .registers, rfl⟩, ⟨horderly.apart .opcodes, rfl⟩⟩

end Startup

end IsaNames
