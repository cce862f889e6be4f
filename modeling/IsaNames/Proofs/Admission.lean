import IsaNames.Proofs.Startup

/-!
# Which declarations a program can start with

A start registers its declarations one after the other, and each is checked against those before it.
Whether it succeeds can nevertheless be told without running it: each declaration has to build on its
own, and any two of them have to be compatible.  The generic mnemonics ask for nothing more than that
each declaration begins its opcodes after them.  A start that fails does so at the first declaration
that is not built or is not compatible with an earlier one.

## Main definitions

* `Declaration.Compatible` — two declarations can be started with together.
* `Startup.Startable` — a program can start with the declarations.
* `Startup.FailsWith` — the fault that ends a start.

## Main results

* `Startup.ends_registerAll_error_iff` — where a run of registrations stops.
* `Startup.ofDeclarations_succeeds_iff_startable` — **a start succeeds exactly with declarations that
  a program can start with, and else fails at the first one that is in the way.**
-/

namespace List

variable {α β : Type} {r : α → β → Prop} {l : List α} {l' : List β}

/-- Each element of a list can be given a related one exactly if the list can be given a related
list. -/
theorem exists_forall₂_iff : (∃ l', Forall₂ r l l') ↔ ∀ a ∈ l, ∃ b, r a b := by
  induction l with
  | nil => simp
  | cons a rest ih =>
    rw [forall_mem_cons, ← ih]
    constructor
    · rintro ⟨_, h⟩
      obtain ⟨b, l', hr, hrest, -⟩ := forall₂_cons_left_iff.mp h
      exact ⟨⟨b, hr⟩, l', hrest⟩
    · rintro ⟨⟨b, hr⟩, l', hrest⟩
      exact ⟨b :: l', .cons hr hrest⟩

/-- Related lists have corresponding elements with corresponding properties. -/
theorem Forall₂.forall_mem_iff {p : α → Prop} {q : β → Prop} (h : Forall₂ r l l')
    (hpq : ∀ a b, r a b → (p a ↔ q b)) : (∀ a ∈ l, p a) ↔ ∀ b ∈ l', q b := by
  induction h with
  | nil => simp
  | cons hr _ ih => rw [forall_mem_cons, forall_mem_cons, ih, hpq _ _ hr]

/-- So do their pairs. -/
theorem Forall₂.pairwise_iff {p : α → α → Prop} {q : β → β → Prop} (h : Forall₂ r l l')
    (hpq : ∀ a b a' b', r a b → r a' b' → (p a a' ↔ q b b')) : l.Pairwise p ↔ l'.Pairwise q := by
  induction h with
  | nil => simp
  | cons hr hrest ih =>
    rw [pairwise_cons, pairwise_cons, ih, hrest.forall_mem_iff fun _ _ => hpq _ _ _ _ hr]

end List

namespace IsaNames

variable {ε : Type}

namespace Declaration

/-- Two declarations can be started with together: their names differ, and neither the ranges of
registers nor those of opcodes that they ask for overlap. -/
structure Compatible (d e : Declaration) : Prop where
  name_ne : d.name ≠ e.name
  registers_apart : ∀ r q, d.registerRange = .ok r → e.registerRange = .ok q → r.overlaps q = false
  opcodes_apart : ∀ r q, d.opcodeRange = .ok r → e.opcodeRange = .ok q → r.overlaps q = false

theorem Compatible.symm {d e : Declaration} (h : d.Compatible e) : e.Compatible d where
  name_ne := h.name_ne.symm
  registers_apart := fun r q hr hq => IdRange.overlaps_false_symm (h.registers_apart q r hq hr)
  opcodes_apart := fun r q hr hq => IdRange.overlaps_false_symm (h.opcodes_apart q r hq hr)

namespace BuildsInto

variable {generic : List String} {d e : Declaration} {a b : Architecture}

/-- An architecture has the name and the ranges that its declaration asks for. -/
theorem asked (h : d.BuildsInto generic a) : a.name = d.name ∧
    d.registerRange = .ok a.registerRange ∧ d.opcodeRange = .ok a.opcodeRange := by
  obtain ⟨x, ranges, hregs, hops, rfl⟩ := build_eq_ok_iff.mp (Provider.build_of_fresh h)
  obtain ⟨hbase, hcounts, -⟩ := buildRegisters_eq_ok_iff.mp hregs
  exact ⟨rfl, (registerRange_eq_ok_iff hcounts).mpr ⟨hbase, rfl⟩,
    (opcodeRange_eq_ok_iff hops.base_nonneg).mpr rfl⟩

/-- Declarations are compatible exactly if their architectures are. -/
theorem compatible_iff (hd : d.BuildsInto generic a) (he : e.BuildsInto generic b) :
    d.Compatible e ↔ a.Compatible b := by
  obtain ⟨hname, hregs, hops⟩ := hd.asked
  obtain ⟨hname', hregs', hops'⟩ := he.asked
  constructor
  · intro h
    refine ⟨?_, h.registers_apart _ _ hregs hregs', h.opcodes_apart _ _ hops hops'⟩
    rw [hname, hname']
    exact h.name_ne
  · intro h
    refine ⟨?_, ?_, ?_⟩
    · rw [← hname, ← hname']
      exact h.name_ne
    · intro r q hr hq
      rw [hregs, Except.ok.injEq] at hr
      rw [hregs', Except.ok.injEq] at hq
      rw [← hr, ← hq]
      exact h.registers_apart
    · intro r q hr hq
      rw [hops, Except.ok.injEq] at hr
      rw [hops', Except.ok.injEq] at hq
      rw [← hr, ← hq]
      exact h.opcodes_apart

end BuildsInto

end Declaration

namespace Startup

/-! ### Declarations to start with -/

/-- A program can start with the declarations: the generic mnemonics can be declared, each declaration
builds on its own, and any two of them are compatible. -/
structure Startable (generic : List String) (declarations : List Declaration) : Prop
    extends GenericWellFormed generic where
  builds : ∀ d ∈ declarations, ∃ a, d.BuildsInto generic a
  compatible : declarations.Pairwise Declaration.Compatible

/-- A program can start with declarations exactly if they are built into architectures that are
compatible with each other. -/
theorem startable_iff {generic : List String} {declarations : List Declaration} :
    Startable generic declarations ↔ GenericWellFormed generic ∧
      ∃ as, List.Forall₂ (Declaration.BuildsInto generic) declarations as ∧
        as.Pairwise Architecture.Compatible := by
  constructor
  · intro h
    obtain ⟨as, hbuilt⟩ := List.exists_forall₂_iff.mpr h.builds
    exact ⟨h.toGenericWellFormed, as, hbuilt, (hbuilt.pairwise_iff fun _ _ _ _ hd he =>
      hd.compatible_iff he).mp h.compatible⟩
  · rintro ⟨hgeneric, as, hbuilt, hcompatible⟩
    exact { hgeneric with
      builds := List.exists_forall₂_iff.mp ⟨as, hbuilt⟩
      compatible := (hbuilt.pairwise_iff fun _ _ _ _ hd he => hd.compatible_iff he).mpr hcompatible }

/-- A start succeeds exactly with declarations that a program can start with. -/
theorem exists_ofDeclarations_iff {generic : List String} {declarations : List Declaration} :
    (∃ dir : Directory ε, (ofDeclarations generic declarations).outcome = .ok dir) ↔
      Startable generic declarations := by
  rw [startable_iff]
  constructor
  · rintro ⟨dir, h⟩
    obtain ⟨hgeneric, as, hbuilt, hcompatible, -⟩ := ofDeclarations_eq_ok_iff.mp h
    exact ⟨hgeneric, as, hbuilt, hcompatible⟩
  · rintro ⟨hgeneric, as, hbuilt, hcompatible⟩
    exact ⟨_, ofDeclarations_eq_ok_iff.mpr ⟨hgeneric, as, hbuilt, hcompatible, rfl⟩⟩

/-- The architectures have the names of their declarations. -/
theorem names_eq_of_built {generic : List String} {declarations : List Declaration}
    {as : List Architecture}
    (hbuilt : List.Forall₂ (Declaration.BuildsInto generic) declarations as) :
    as.map (·.name) = declarations.map (·.name) := by
  rw [← List.forall₂_eq_eq_eq, List.forall₂_map_left_iff, List.forall₂_map_right_iff]
  exact (hbuilt.imp fun _ _ h => h.asked.1).flip

/-! ### Where a start stops -/

/-- A run of registrations stops at a declaration that is not registered in the space that those
before it leave. -/
theorem ends_registerAll_error_iff {declarations : List Declaration} {s : SharedSpace ε}
    {e : Fault} :
    (∃ s', (registerAll registerFresh declarations).Ends ((), s) ((), s') (.error e)) ↔
      ∃ earlier d later s', declarations = earlier ++ d :: later ∧
        (registerAll registerFresh earlier).Ends ((), s) ((), s') (.ok ()) ∧
        (Provider.register (s', { declaration := d })).2.outcome = .error e := by
  induction declarations generalizing s with
  | nil =>
    constructor
    · rintro ⟨s', h⟩
      cases h.2
    · rintro ⟨earlier, d, later, s', hsplit, -⟩
      simp at hsplit
  | cons c rest ih =>
    simp only [registerAll, Action.ends_bind_error_iff]
    constructor
    · rintro ⟨s', h | ⟨a, ⟨⟨⟩, s₁⟩, h₁, h₂⟩⟩
      · obtain ⟨p', h⟩ := ends_registerFresh_iff.mp h
        exact ⟨[], c, rest, s, rfl, Action.ends_pure _ _, h.2⟩
      · obtain ⟨earlier, d, later, s'', rfl, hrun, hfault⟩ := ih.mp ⟨s', h₂⟩
        exact ⟨c :: earlier, d, later, s'', rfl, h₁.bind hrun, hfault⟩
    · rintro ⟨earlier, d, later, s', hsplit, hrun, hfault⟩
      cases earlier with
      | nil =>
        obtain ⟨rfl, rfl⟩ := List.cons.inj hsplit
        cases hrun.1
        exact ⟨_, .inl (ends_registerFresh_iff.mpr ⟨_, rfl, hfault⟩)⟩
      | cons c' earlier =>
        obtain ⟨rfl, rfl⟩ := List.cons.inj hsplit
        obtain ⟨a, ⟨⟨⟩, s₁⟩, h₁, h₂⟩ := Action.ends_bind_ok_iff.mp hrun
        obtain ⟨s'', h⟩ := ih.mpr ⟨earlier, d, later, s', rfl, h₂, hfault⟩
        exact ⟨s'', .inr ⟨a, _, h₁, h⟩⟩

/-- A declaration that builds and is compatible with those before it is registered after them. -/
theorem ends_register_of_compatible {generic : List String} {declarations : List Declaration}
    {as : List Architecture} (hbuilt : List.Forall₂ (Declaration.BuildsInto generic) declarations as)
    {d : Declaration} {a : Architecture} (hd : d.BuildsInto generic a)
    (hcompatible : ∀ b ∈ declarations, b.Compatible d) :
    ∃ s' p', Provider.register.Ends ((SharedSpace.populated generic as : SharedSpace ε),
      { declaration := d }) (s', p') (.ok a) := by
  have hadmits : (SharedSpace.populated generic as : SharedSpace ε).Admits a :=
    SharedSpace.admits_enteredAll_iff.mpr ⟨hd.admits_initial _,
      (hbuilt.forall_mem_iff fun _ _ hb => hb.compatible_iff hd).mp hcompatible⟩
  exact ⟨_, Provider.ends_register_ok_iff.mpr ⟨rfl, hd, hadmits, rfl⟩⟩

/-- The fault that ends a start. -/
inductive FailsWith (ε : Type) (generic : List String) (declarations : List Declaration) :
    Fault → Prop
  /-- The generic mnemonics cannot be declared. -/
  | generic {e : Fault}
      (h : (SharedSpace.create generic : Traced (SharedSpace ε)).outcome = .error e) :
      FailsWith ε generic declarations e
  /-- A program can start with the declarations before `d`, but `d` does not build or is not compatible
  with one of them, and this is how the attempt to register it ends. -/
  | declaration {earlier later : List Declaration} {d : Declaration} {s s' : SharedSpace ε}
      {e : Fault} (split : declarations = earlier ++ d :: later)
      (startable : Startable generic earlier)
      (stops : (∀ a, ¬d.BuildsInto generic a) ∨ ∃ b ∈ earlier, ¬b.Compatible d)
      (created : (SharedSpace.create generic).outcome = .ok s)
      (registered : (registerAll registerFresh earlier).Ends ((), s) ((), s') (.ok ()))
      (fault : (Provider.register (s', { declaration := d })).2.outcome = .error e) :
      FailsWith ε generic declarations e

/-- The declarations before the one that a start stops at can be started with, and that one cannot be
added to them. -/
theorem failsWith_of_registerAll {generic : List String} {declarations : List Declaration}
    {s s' : SharedSpace ε} {e : Fault} (hcreate : (SharedSpace.create generic).outcome = .ok s)
    (h : (registerAll registerFresh declarations).Ends ((), s) ((), s') (.error e)) :
    FailsWith ε generic declarations e := by
  obtain ⟨earlier, d, later, s₁, hsplit, hrun, hfault⟩ := ends_registerAll_error_iff.mp ⟨s', h⟩
  obtain ⟨hgeneric, rfl⟩ := SharedSpace.create_eq_ok_iff_wellFormed.mp hcreate
  obtain ⟨as, hbuilt, -, hcompatible, rfl⟩ := ends_registerAll_ok_iff.mp hrun
  refine .declaration hsplit (startable_iff.mpr ⟨hgeneric, as, hbuilt, hcompatible⟩) ?_ hcreate hrun
    hfault
  by_contra hgood
  push Not at hgood
  obtain ⟨⟨a, ha⟩, hcompatible⟩ := hgood
  obtain ⟨s₂, p', hends⟩ := ends_register_of_compatible (ε := ε) hbuilt ha hcompatible
  cases hfault.symm.trans hends.2

/-- **A start succeeds exactly with declarations that a program can start with, and else fails at the
first one that is in the way.**  The directory then lists the names of the declarations in their
order. -/
theorem ofDeclarations_succeeds_iff_startable (generic : List String)
    (declarations : List Declaration) :
    ((∃ dir : Directory ε, (ofDeclarations generic declarations).outcome = .ok dir) ↔
      Startable generic declarations) ∧
    (∀ dir : Directory ε, (ofDeclarations generic declarations).outcome = .ok dir →
      dir.names = declarations.map (·.name)) ∧
    ∀ e, (ofDeclarations generic declarations : Traced (Directory ε)).outcome = .error e ↔
      FailsWith ε generic declarations e := by
  refine ⟨exists_ofDeclarations_iff, ?_, ?_⟩
  · intro dir h
    obtain ⟨-, as, hbuilt, -, rfl⟩ := ofDeclarations_eq_ok_iff.mp h
    exact names_eq_of_built hbuilt
  · intro e
    have hrun : (ofDeclarations generic declarations : Traced (Directory ε)).outcome = .error e ↔
        (run generic registerFresh declarations : Action Unit (Directory ε)).Ends () ()
          (.error e) := (and_iff_right rfl).symm
    rw [hrun, run, Action.ends_within_iff]
    constructor
    · rintro (⟨_, hcreate, -, ⟨⟩⟩ | ⟨s, s', hcreate, hends⟩)
      · exact .generic hcreate
      rcases Action.ends_bind_error_iff.mp hends with hall | ⟨⟨⟩, ⟨⟨⟩, s₁⟩, hall, hends⟩
      · exact failsWith_of_registerAll hcreate hall
      · -- once all are registered nothing fails any more
        obtain ⟨-, rfl⟩ := SharedSpace.create_eq_ok_iff_wellFormed.mp hcreate
        obtain ⟨as, hbuilt, -, hcompatible, rfl⟩ := ends_registerAll_ok_iff.mp hall
        cases (hends.unique (ends_closing (orderly_populated hbuilt hcompatible))).2
    · intro h
      cases h with
      | generic hcreate => exact .inl ⟨e, hcreate, rfl, rfl⟩
      | declaration hsplit _ _ hcreate hrun hfault =>
        obtain ⟨s', h⟩ := ends_registerAll_error_iff.mpr ⟨_, _, _, _, hsplit, hrun, hfault⟩
        exact .inr ⟨_, _, hcreate, Action.ends_bind_error_iff.mpr (.inl h)⟩

end Startup

end IsaNames
