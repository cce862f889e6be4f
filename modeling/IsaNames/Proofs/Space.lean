import IsaNames.Proofs.Chart
import IsaNames.Proofs.Outcome
import IsaNames.Provider
import Mathlib.Data.List.Nodup

/-!
# What can happen to a shared space

Each write to a shared space is checked, and a refused one leaves the space as it was.  What a call
can do is said once, in `SharedSpace.Step`; every fact about all spaces that can be reached follows
from it by induction.

## Main definitions

* `SharedSpace.Admits s a` — nothing stands in the way of registering `a` in `s`.
* `SharedSpace.entered s a` — the space after `a` was registered in it.
* `Provider.RefusedBy p s` — what a registration that is refused fails with.
* `SharedSpace.Call`, `SharedSpace.after` — the calls on a space and the state they leave.
* `SharedSpace.Step` — what a call can do.
* `SharedSpace.Reachable` — the spaces that calls lead to, refused calls included.
* `SharedSpace.Orderly` — the invariant of these spaces.

## Main results

* `SharedSpace.claim_guarded`, `SharedSpace.attach_guarded`, `SharedSpace.enter_guarded` — each write
  is done as a whole or refused as a whole.
* `Provider.register_ends`, `Provider.register_cases` — so is a registration.
* `SharedSpace.step_after` — every call does what `Step` says.
* `SharedSpace.Reachable.orderly` — **every space that can be reached is orderly.**
-/

namespace IsaNames

variable {ε : Type}

namespace SharedSpace

/-! ### Checks -/

/-- The space is still written to. -/
def IsOpen (s : SharedSpace ε) : Prop := s.closedAs = none

/-- No holding of the category overlaps the range. -/
def Free (s : SharedSpace ε) (category : Category) (range : IdRange) : Prop :=
  ∀ h ∈ s.holdings category, h.range.overlaps range = false

/-- No architecture of the name is attached. -/
def Lacks (s : SharedSpace ε) (name : String) : Prop := ∀ b ∈ s.architectures, b.name ≠ name

/-- Nothing stands in the way of registering an architecture. -/
structure Admits (s : SharedSpace ε) (a : Architecture) : Prop where
  isOpen : s.IsOpen
  lacks : s.Lacks a.name
  registersFree : s.Free .registers a.registerRange
  opcodesFree : s.Free .opcodes a.opcodeRange

theorem checkOpen_eq_ok_iff {s : SharedSpace ε} {write : SpaceWrite} {owner : String} :
    s.checkOpen write owner = .ok () ↔ s.IsOpen := by
  unfold checkOpen IsOpen
  cases s.closedAs <;> simp

theorem checkFree_eq_ok_iff {s : SharedSpace ε} {category : Category} {range : IdRange}
    {owner : String} :
    s.checkFree category range owner = .ok () ↔ s.IsOpen ∧ s.Free category range := by
  unfold checkFree
  rw [Except.bind_eq_ok_iff]
  constructor
  · rintro ⟨_, hopen, hfind⟩
    refine ⟨checkOpen_eq_ok_iff.mp hopen, ?_⟩
    cases hf : (s.holdings category).find? fun h => h.range.overlaps range with
    | some h => simp [hf] at hfind
    | none => simpa [Free] using hf
  · rintro ⟨hopen, hfree⟩
    refine ⟨(), checkOpen_eq_ok_iff.mpr hopen, ?_⟩
    have hf : (s.holdings category).find? (fun h => h.range.overlaps range) = none := by
      simpa [Free] using hfree
    rw [hf]

theorem checkNew_eq_ok_iff {s : SharedSpace ε} {a : Architecture} :
    s.checkNew a = .ok () ↔ s.Lacks a.name := by
  simp [checkNew, Lacks]

/-- The check of an architecture passes exactly when nothing stands in its way. -/
theorem checkAdmissible_eq_ok_iff {s : SharedSpace ε} {a : Architecture} :
    s.checkAdmissible a = .ok () ↔ s.Admits a := by
  unfold checkAdmissible
  simp only [Except.bind_eq_ok_iff]
  constructor
  · rintro ⟨_, hopen, _, hlacks, _, hregs, hops⟩
    exact ⟨checkOpen_eq_ok_iff.mp hopen, checkNew_eq_ok_iff.mp hlacks,
      (checkFree_eq_ok_iff.mp hregs).2, (checkFree_eq_ok_iff.mp hops).2⟩
  · intro h
    exact ⟨(), checkOpen_eq_ok_iff.mpr h.isOpen, (), checkNew_eq_ok_iff.mpr h.lacks, (),
      checkFree_eq_ok_iff.mpr ⟨h.isOpen, h.registersFree⟩,
      checkFree_eq_ok_iff.mpr ⟨h.isOpen, h.opcodesFree⟩⟩

/-- A check that does not pass fails with a flaw. -/
theorem exists_error_of_ne_ok {r : Except Flaw Unit} (h : r ≠ .ok ()) : ∃ f, r = .error f := by
  cases r with
  | ok _ => exact absurd rfl h
  | error f => exact ⟨f, rfl⟩

/-! ### Writes -/

@[simp] theorem holdings_add_self (s : SharedSpace ε) (category : Category) (h : Holding ε) :
    (s.add category h).holdings category = s.holdings category ++ [h] := by
  cases category <;> rfl

theorem holdings_add_of_ne {s : SharedSpace ε} {category category' : Category} {h : Holding ε}
    (hne : category' ≠ category) : (s.add category h).holdings category' = s.holdings category' := by
  cases category <;> cases category' <;> first | rfl | exact absurd rfl hne

@[simp] theorem architectures_add (s : SharedSpace ε) (category : Category) (h : Holding ε) :
    (s.add category h).architectures = s.architectures := by
  cases category <;> rfl

@[simp] theorem closedAs_add (s : SharedSpace ε) (category : Category) (h : Holding ε) :
    (s.add category h).closedAs = s.closedAs := by
  cases category <;> rfl

/-- The space with one more architecture. -/
def attached (s : SharedSpace ε) (a : Architecture) : SharedSpace ε :=
  { s with architectures := s.architectures ++ [a] }

/-- The space after an architecture was registered: one more holding of each category, owned by the
architecture, and one more architecture, all of them last. -/
def entered (s : SharedSpace ε) (a : Architecture) : SharedSpace ε :=
  { s with
    registers := s.registers ++ [⟨a.registerRange, .ofLexicon a.registers, a.name⟩]
    opcodes := s.opcodes ++ [⟨a.opcodeRange, .ofLexicon a.opcodes, a.name⟩]
    architectures := s.architectures ++ [a] }

/-- The check of an architecture as a call. -/
def check (a : Architecture) : Action (SharedSpace ε) Unit := do
  let s ← Action.read
  Action.lift (Traced.flawed (s.checkAdmissible a))

/-- The writes of a registration, in their order and without a check before them. -/
def writes (a : Architecture) (registerNamer opcodeNamer : Namer ε) :
    Action (SharedSpace ε) Unit := do
  claim .registers a.registerRange registerNamer a.name
  claim .opcodes a.opcodeRange opcodeNamer a.name
  attach a

/-- A range that is refused is refused for what the check found. -/
theorem ends_claim_error {s : SharedSpace ε} {category : Category} {range : IdRange} {owner : String}
    {f : Flaw} (h : s.checkFree category range owner = .error f) (namer : Namer ε) :
    (claim category range namer owner).Ends s s (.error f.fault) := by
  refine Action.ends_replace_error ?_
  simp only [h, Traced.outcome_bind, Traced.outcome_flawed]
  rfl

/-- A range is handed out if the space is open and the range is free, and else nothing happens. -/
theorem claim_guarded (s : SharedSpace ε) (category : Category) (range : IdRange)
    (namer : Namer ε) (owner : String) :
    (claim category range namer owner).Guarded (s.IsOpen ∧ s.Free category range) s
      (s.add category ⟨range, namer, owner⟩) := by
  by_cases h : s.IsOpen ∧ s.Free category range
  · refine Or.inl ⟨h, Action.ends_replace_ok ?_⟩
    have hcheck : s.checkFree category range owner = .ok () := checkFree_eq_ok_iff.mpr h
    rw [hcheck]
    rfl
  · have hcheck : s.checkFree category range owner ≠ .ok () := mt checkFree_eq_ok_iff.mp h
    obtain ⟨f, hf⟩ := exists_error_of_ne_ok hcheck
    exact Or.inr ⟨h, f.fault, ends_claim_error hf namer⟩

/-- A closed space refuses to attach an architecture. -/
theorem ends_attach_error {s : SharedSpace ε} {a : Architecture} {f : Flaw}
    (h : s.checkOpen .attachment a.name = .error f) : (attach a).Ends s s (.error f.fault) := by
  refine Action.ends_replace_error ?_
  simp only [h, Traced.outcome_bind, Traced.outcome_flawed]
  rfl

/-- An architecture is attached if the space is open and lacks its name, and else nothing
happens. -/
theorem attach_guarded (s : SharedSpace ε) (a : Architecture) :
    (attach a).Guarded (s.IsOpen ∧ s.Lacks a.name) s (s.attached a) := by
  by_cases hopen : s.IsOpen
  · have hcheck : s.checkOpen .attachment a.name = .ok () := checkOpen_eq_ok_iff.mpr hopen
    by_cases hlacks : s.Lacks a.name
    · refine Or.inl ⟨⟨hopen, hlacks⟩, Action.ends_replace_ok ?_⟩
      rw [hcheck, checkNew_eq_ok_iff.mpr hlacks]
      rfl
    · obtain ⟨f, hf⟩ := exists_error_of_ne_ok (mt checkNew_eq_ok_iff.mp hlacks)
      refine Or.inr ⟨fun h => hlacks h.2, f.fault, Action.ends_replace_error ?_⟩
      simp only [hcheck, hf, Traced.outcome_bind, Traced.outcome_flawed]
      rfl
  · obtain ⟨f, hf⟩ := exists_error_of_ne_ok (mt checkOpen_eq_ok_iff.mp hopen)
    exact Or.inr ⟨fun h => hopen h.1, f.fault, ends_attach_error hf⟩

/-- A space that holds nothing but the generic opcodes. -/
def initial (generic : List String) (names : Lexicon) : SharedSpace ε :=
  { generic, genericNames := names,
    opcodes := [⟨genericRange generic, .ofLexicon names, genericOwner⟩] }

/-- A space is created exactly when the generic mnemonics can be declared. -/
theorem create_eq_ok_iff {generic : List String} {s : SharedSpace ε} :
    (create generic).outcome = .ok s ↔
      ∃ draft, (Lexicon.Draft.empty Miss.instruction Lexicon.opcodeFallback true
        (some genericOwner)).declareFrom 0 generic = .ok draft ∧
        s = initial generic draft.closed := by
  unfold create
  simp only [Traced.outcome_bind, Traced.outcome_flawed, Except.bind_eq_ok_iff,
    Except.mapError_eq_ok_iff, Action.outcome_final_eq_ok_iff, (claim_guarded ..).ends_ok_iff]
  constructor
  · rintro ⟨draft, hdraft, -, rfl⟩
    exact ⟨draft, hdraft, rfl⟩
  · rintro ⟨draft, hdraft, rfl⟩
    refine ⟨draft, hdraft, ⟨rfl, ?_⟩, rfl⟩
    intro h hh
    cases hh

/-! ### Registering an architecture -/

/-- An architecture that does not pass the check is refused for what the check found. -/
theorem ends_check_error {s : SharedSpace ε} {a : Architecture} {f : Flaw}
    (h : s.checkAdmissible a = .error f) : (check a).Ends s s (.error f.fault) := by
  refine ⟨rfl, ?_⟩
  show (Traced.flawed (s.checkAdmissible a)).outcome = .error f.fault
  rw [h, Traced.outcome_flawed]
  rfl

/-- The check of an architecture leaves the space alone, whether or not it passes. -/
theorem check_guarded (s : SharedSpace ε) (a : Architecture) :
    (check a).Guarded (s.Admits a) s s := by
  by_cases h : s.Admits a
  · refine Or.inl ⟨h, rfl, ?_⟩
    show (Traced.flawed (s.checkAdmissible a)).outcome = .ok ()
    rw [checkAdmissible_eq_ok_iff.mpr h]
    rfl
  · obtain ⟨f, hf⟩ := exists_error_of_ne_ok (mt checkAdmissible_eq_ok_iff.mp h)
    exact Or.inr ⟨h, f.fault, ends_check_error hf⟩

/-- The writes of a registration succeed in a row exactly when nothing stands in the way of the
architecture: what one of them adds is nothing that a later one asks about. -/
theorem ends_writes_ok_iff {s s' : SharedSpace ε} {a : Architecture} {m n : Namer ε} :
    (writes a m n).Ends s s' (.ok ()) ↔ s.Admits a ∧ s' =
      { s with
        registers := s.registers ++ [⟨a.registerRange, m, a.name⟩]
        opcodes := s.opcodes ++ [⟨a.opcodeRange, n, a.name⟩]
        architectures := s.architectures ++ [a] } := by
  unfold writes
  simp only [Action.ends_bind_ok_iff]
  -- a range of one category is no range of the other, and neither write touches the names
  constructor
  · rintro ⟨⟨⟩, s₁, h₁, ⟨⟩, s₂, h₂, h₃⟩
    obtain ⟨⟨hopen, hregs⟩, rfl⟩ := (claim_guarded ..).ends_ok_iff.mp h₁
    obtain ⟨⟨-, hops⟩, rfl⟩ := (claim_guarded ..).ends_ok_iff.mp h₂
    obtain ⟨⟨-, hlacks⟩, rfl⟩ := (attach_guarded ..).ends_ok_iff.mp h₃
    exact ⟨⟨hopen, hlacks, hregs, hops⟩, rfl⟩
  · rintro ⟨h, rfl⟩
    refine ⟨(), _, (claim_guarded ..).ends_ok_iff.mpr ⟨⟨h.isOpen, h.registersFree⟩, rfl⟩, (), _,
      (claim_guarded ..).ends_ok_iff.mpr ⟨⟨h.isOpen, h.opcodesFree⟩, rfl⟩, ?_⟩
    exact (attach_guarded ..).ends_ok_iff.mpr ⟨⟨h.isOpen, h.lacks⟩, rfl⟩

/-- A registration is the check followed by the writes. -/
theorem enter_eq (a : Architecture) :
    (enter a : Action (SharedSpace ε) Unit) =
      (check a >>= fun _ => writes a (.ofLexicon a.registers) (.ofLexicon a.opcodes)) := by
  simp only [enter, check, writes, bind_assoc]

/-- An architecture that does not pass the check is not registered. -/
theorem ends_enter_error {s : SharedSpace ε} {a : Architecture} {f : Flaw}
    (h : s.checkAdmissible a = .error f) : (enter a).Ends s s (.error f.fault) := by
  rw [enter_eq]
  exact (ends_check_error h).bind_error

/-- An architecture is registered if nothing stands in its way, and else nothing happens. -/
theorem enter_guarded (s : SharedSpace ε) (a : Architecture) :
    (enter a).Guarded (s.Admits a) s (s.entered a) := by
  rw [enter_eq]
  rcases check_guarded s a with ⟨h, hcheck⟩ | ⟨h, e, hcheck⟩
  · exact Or.inl ⟨h, hcheck.bind (ends_writes_ok_iff.mpr ⟨h, rfl⟩)⟩
  · exact Or.inr ⟨h, e, hcheck.bind_error⟩

end SharedSpace

namespace Provider

open SharedSpace (checkAdmissible_eq_ok_iff ends_enter_error)

/-- A provider that has built its architecture answers with it. -/
theorem ends_build_kept {p : Provider} {a : Architecture} {generic : List String}
    (h : p.built = some (a, generic)) : (build generic).Ends p p (.ok a) := by
  unfold Action.Ends build
  simp [h]

/-- It refuses to build it with other generic mnemonics. -/
theorem ends_build_other {p : Provider} {a : Architecture} {generic other : List String}
    (h : p.built = some (a, generic)) (hother : other ≠ generic) :
    (build other).Ends p p (.error (p.flaw .otherGeneric).fault) := by
  unfold Action.Ends build
  simp [h, hother.symm]

/-- An architecture that was built for the first time is kept, whether or not the number of its
registers can be reported. -/
theorem ends_build_first {p : Provider} {a : Architecture} {generic : List String}
    (h : p.built = none) (hbuild : (p.declaration.build generic).outcome = .ok a) :
    (build generic).Ends p { p with built := some (a, generic) } (p.reportBuild a).outcome := by
  rcases hd : p.declaration.build generic with ⟨log, o⟩
  rw [hd] at hbuild
  subst hbuild
  unfold Action.Ends build
  simp [h, hd]

/-- A provider that cannot build its architecture stays as it was. -/
theorem ends_build_error {p : Provider} {e : Fault} {generic : List String}
    (h : p.built = none) (hbuild : (p.declaration.build generic).outcome = .error e) :
    (build generic).Ends p p (.error e) := by
  rcases hd : p.declaration.build generic with ⟨log, o⟩
  rw [hd] at hbuild
  subst hbuild
  unfold Action.Ends build
  simp [h, hd]

/-- Building changes neither the declaration of a provider nor whether it is registered. -/
theorem build_keeps (generic : List String) (p : Provider) :
    (build generic p).1.declaration = p.declaration ∧
      (build generic p).1.registered = p.registered := by
  unfold build
  split
  · exact ⟨rfl, rfl⟩
  · split <;> exact ⟨rfl, rfl⟩

/-- What a provider fails with if it does not register its architecture in a space. -/
inductive RefusedBy (p : Provider) (s : SharedSpace ε) : Fault → Prop
  /-- It has registered its architecture before. -/
  | registered (h : p.registered = true) :
      RefusedBy p s (p.flaw (.registeredTwice p.name)).fault
  /-- It cannot build its architecture. -/
  | notBuilt {e : Fault} (hp : p.registered = false)
      (h : (build s.generic p).2.outcome = .error e) : RefusedBy p s e
  /-- Something stands in the way of its architecture. -/
  | notAdmitted {a : Architecture} {f : Flaw} (hp : p.registered = false)
      (hbuild : (build s.generic p).2.outcome = .ok a) (h : s.checkAdmissible a = .error f) :
      RefusedBy p s f.fault

section Register

variable {s : SharedSpace ε} {p p' : Provider} {a : Architecture}

/-- A provider that has registered its architecture does not do so again. -/
theorem ends_register_registered (s : SharedSpace ε) (hp : p.registered = true) :
    register.Ends (s, p) (s, p) (.error (p.flaw (.registeredTwice p.name)).fault) := by
  refine (Action.ends_read (s, p)).bind ?_
  dsimp only
  rw [if_pos hp, ← Traced.outcome_raise]
  exact Action.ends_lift _ _

/-- One that has not builds its architecture and enters it. -/
theorem ends_register_of_ends (hp : p.registered = false) {t : SharedSpace ε × Provider}
    {o : Except Fault Architecture}
    (h : (do
      let a ← Action.onSecond (build s.generic)
      Action.onFirst (SharedSpace.enter a)
      Action.onSecond (Action.update fun p => { p with registered := true })
      return a : Action (SharedSpace ε × Provider) Architecture).Ends (s, p) t o) :
    register.Ends (s, p) t o := by
  refine (Action.ends_read (s, p)).bind ?_
  dsimp only
  rw [if_neg (by rw [hp]; exact Bool.false_ne_true)]
  exact h

theorem ends_register_notBuilt (hp : p.registered = false) {e : Fault}
    (hbuild : (build s.generic).Ends p p' (.error e)) : register.Ends (s, p) (s, p') (.error e) :=
  ends_register_of_ends hp hbuild.onSecond.bind_error

theorem ends_register_notAdmitted (hp : p.registered = false)
    (hbuild : (build s.generic).Ends p p' (.ok a)) {f : Flaw}
    (hcheck : s.checkAdmissible a = .error f) :
    register.Ends (s, p) (s, p') (.error f.fault) :=
  ends_register_of_ends hp (hbuild.onSecond.bind (ends_enter_error hcheck).onFirst.bind_error)

theorem ends_register_admitted (hp : p.registered = false)
    (hbuild : (build s.generic).Ends p p' (.ok a)) (hadmits : s.Admits a) :
    register.Ends (s, p) (s.entered a, { p' with registered := true }) (.ok a) := by
  have henter := (s.enter_guarded a).ends_ok_iff.mpr ⟨hadmits, rfl⟩
  refine ends_register_of_ends hp (hbuild.onSecond.bind (henter.onFirst.bind ?_))
  exact (Action.ends_update _ _).onSecond.bind (Action.ends_pure _ _)

/-- Registering goes on from building, so providers whose building ends in the same way register in
the same way. -/
theorem ends_register_congr {q r : Provider} {o : Except Fault Architecture}
    (hp : p.registered = false) (hq : q.registered = false)
    (hpr : (build s.generic).Ends p r o) (hqr : (build s.generic).Ends q r o) :
    register.Ends (s, q) (register (s, p)).1 (register (s, p)).2.outcome := by
  cases o with
  | error e =>
    have hends : register.Ends (s, p) _ _ := ends_register_notBuilt hp hpr
    rw [hends.1, hends.2]
    exact ends_register_notBuilt hq hqr
  | ok a =>
    have hrest := Action.ends_self (do
      Action.onFirst (SharedSpace.enter a)
      Action.onSecond (Action.update fun p => { p with registered := true })
      return a : Action (SharedSpace ε × Provider) Architecture) (s, r)
    have hends := ends_register_of_ends hp (hpr.onSecond.bind hrest)
    rw [hends.1, hends.2]
    exact ends_register_of_ends hq (hqr.onSecond.bind hrest)

end Register

/-- A provider registers its architecture if it builds and nothing stands in its way, and else
neither the space is changed nor whether the provider is registered. -/
theorem register_ends (s : SharedSpace ε) (p : Provider) :
    (∃ a p', p.registered = false ∧ (build s.generic).Ends p p' (.ok a) ∧ s.Admits a ∧
      register.Ends (s, p) (s.entered a, { p' with registered := true }) (.ok a)) ∨
    (∃ e p', p.RefusedBy s e ∧ p'.declaration = p.declaration ∧ p'.registered = p.registered ∧
      register.Ends (s, p) (s, p') (.error e)) := by
  have hkeeps := build_keeps s.generic p
  have hbuild := Action.ends_self (build s.generic) p
  by_cases hp : p.registered = true
  · exact .inr ⟨_, p, .registered hp, rfl, rfl, ends_register_registered s hp⟩
  rw [Bool.not_eq_true] at hp
  generalize (build s.generic p).1 = p' at hkeeps hbuild
  cases ho : (build s.generic p).2.outcome with
  | error e =>
    rw [ho] at hbuild
    exact .inr ⟨e, p', .notBuilt hp ho, hkeeps.1, hkeeps.2, ends_register_notBuilt hp hbuild⟩
  | ok a =>
    rw [ho] at hbuild
    cases hcheck : s.checkAdmissible a with
    | ok _ =>
      have hadmits := checkAdmissible_eq_ok_iff.mp hcheck
      exact .inl ⟨a, p', hp, hbuild, hadmits, ends_register_admitted hp hbuild hadmits⟩
    | error f =>
      exact .inr ⟨f.fault, p', .notAdmitted hp ho hcheck, hkeeps.1, hkeeps.2,
        ends_register_notAdmitted hp hbuild hcheck⟩

/-- A registration is done as a whole or refused as a whole. -/
theorem register_cases (s : SharedSpace ε) (p : Provider) :
    (∃ a p', p.registered = false ∧ (build s.generic).Ends p p' (.ok a) ∧ s.Admits a ∧
      register.Ends (s, p) (s.entered a, { p' with registered := true }) (.ok a)) ∨
    (∃ e p', p'.declaration = p.declaration ∧ p'.registered = p.registered ∧
      register.Ends (s, p) (s, p') (.error e)) :=
  (register_ends s p).imp_right fun ⟨e, p', _, h⟩ => ⟨e, p', h⟩

/-- A registration that is refused leaves the space as it was, and the provider as building left it. -/
theorem eq_of_ends_register_error {s t : SharedSpace ε} {p p' : Provider} {e : Fault}
    (h : register.Ends (s, p) (t, p') (.error e)) :
    t = s ∧ (p.registered = true ∧ p' = p ∨ p.registered = false ∧
      ∃ o, (build s.generic).Ends p p' o ∧ ∀ e', o = .error e' → e' = e) := by
  rcases register_ends s p with ⟨_, _, -, -, -, hends⟩ | ⟨_, _, hrefused, -, -, hends⟩
  · cases (h.unique hends).2
  cases (h.unique hends).2
  have hbuild := Action.ends_self (build s.generic) p
  cases hrefused with
  | registered hp =>
    cases (h.unique (ends_register_registered s hp)).1
    exact ⟨rfl, .inl ⟨hp, rfl⟩⟩
  | notBuilt hp ho =>
    rw [ho] at hbuild
    cases (h.unique (ends_register_notBuilt hp hbuild)).1
    exact ⟨rfl, .inr ⟨hp, _, hbuild, fun _ he => (Except.error.inj he).symm⟩⟩
  | notAdmitted hp ho hcheck =>
    rw [ho] at hbuild
    cases (h.unique (ends_register_notAdmitted hp hbuild hcheck)).1
    exact ⟨rfl, .inr ⟨hp, _, hbuild, fun _ he => nomatch he⟩⟩

end Provider

/-! ### Calls -/

namespace SharedSpace

/-- A call on a space.  A registration brings its provider in whatever state that one is in. -/
inductive Call (ε : Type)
  | claim (category : Category) (range : IdRange) (namer : Namer ε) (owner : String)
  | check (a : Architecture)
  | attach (a : Architecture)
  | register (p : Provider)
  | close

/-- The space after a call, whether or not the call is refused. -/
def after (s : SharedSpace ε) : Call ε → SharedSpace ε
  | .claim category range namer owner => (claim category range namer owner s).1
  | .check a => (check a s).1
  | .attach a => (attach a s).1
  | .register p => (Provider.register (s, p)).1.1
  | .close => (close s).1

/-- What a call can do to a space. -/
inductive Step (s : SharedSpace ε) : SharedSpace ε → Prop
  /-- The call is refused, or it writes nothing. -/
  | same : Step s s
  /-- A range is handed out. -/
  | claimed {category : Category} {h : Holding ε} (hopen : s.IsOpen)
      (hfree : s.Free category h.range) : Step s (s.add category h)
  /-- An architecture is attached on its own. -/
  | attached {a : Architecture} (hopen : s.IsOpen) (hlacks : s.Lacks a.name) : Step s (s.attached a)
  /-- An architecture is registered. -/
  | entered {a : Architecture} (hadmits : s.Admits a) : Step s (s.entered a)
  /-- The space is closed. -/
  | closed (hopen : s.IsOpen) : Step s { s with closedAs := some s.directory }

/-- Every call does what `Step` says. -/
theorem step_after (s : SharedSpace ε) (c : Call ε) : Step s (s.after c) := by
  cases c with
  | claim category range namer owner =>
    rw [after]
    rcases (claim_guarded s category range namer owner).final_cases with ⟨h, hs⟩ | hs
    · rw [hs]
      exact .claimed h.1 h.2
    · rw [hs]
      exact .same
  | check a => exact .same
  | attach a =>
    rw [after]
    rcases (attach_guarded s a).final_cases with ⟨h, hs⟩ | hs
    · rw [hs]
      exact .attached h.1 h.2
    · rw [hs]
      exact .same
  | register p =>
    rcases Provider.register_cases s p with ⟨a, p', -, -, hadmits, hends⟩ | ⟨e, p', -, -, hends⟩
    · rw [after, hends.1]
      exact .entered hadmits
    · rw [after, hends.1]
      exact .same
  | close =>
    rw [after, close]
    split
    · exact .same
    · next hopen => exact .closed hopen

/-- The spaces that any calls lead to, in any order, refused ones included. -/
inductive Reachable : SharedSpace ε → Prop
  | create {generic : List String} {s : SharedSpace ε} (h : (create generic).outcome = .ok s) :
      Reachable s
  | after {s : SharedSpace ε} (c : Call ε) (h : Reachable s) : Reachable (s.after c)

/-- A space without generic mnemonics can be created. -/
theorem reachable_initial :
    (initial [] (Lexicon.Draft.empty Miss.instruction Lexicon.opcodeFallback true
      (some genericOwner)).closed : SharedSpace ε).Reachable := by
  have hcreate : (create [] : Traced (SharedSpace ε)).outcome = .ok _ := rfl
  exact .create hcreate

/-! ### The invariant -/

/-- The holdings of either category are apart, no two architectures have the same name, and a closed
space answers for what it holds. -/
structure Orderly (s : SharedSpace ε) : Prop where
  apart : ∀ category, Apart (s.holdings category)
  names_nodup : (s.architectures.map (·.name)).Nodup
  closedAs_eq : ∀ d, s.closedAs = some d → d = s.directory

/-- The spaces of a namespace without architectures are orderly. -/
theorem orderly_initial (generic : List String) (names : Lexicon) :
    (initial generic names : SharedSpace ε).Orderly where
  apart
    | .registers => apart_nil
    | .opcodes => List.pairwise_singleton _ _
  names_nodup := List.nodup_nil
  closedAs_eq := by
    intro d hd
    cases hd

/-- A name that a space lacks may be added to the names of its architectures. -/
theorem Lacks.names_nodup {s : SharedSpace ε} {a : Architecture} (h : s.Lacks a.name)
    (hs : (s.architectures.map (·.name)).Nodup) :
    ((s.architectures ++ [a]).map (·.name)).Nodup := by
  rw [List.map_append, List.map_singleton, ← List.concat_eq_append]
  refine hs.concat ?_
  intro hmem
  obtain ⟨b, hb, hname⟩ := List.mem_map.mp hmem
  exact h b hb hname

/-- **A call keeps a space orderly.** -/
theorem Orderly.step {s s' : SharedSpace ε} (hs : s.Orderly) (h : Step s s') : s'.Orderly := by
  cases h with
  | same => exact hs
  | @claimed category h hopen hfree =>
    refine ⟨?_, by simpa using hs.names_nodup, ?_⟩
    · intro category'
      by_cases hc : category' = category
      · rw [hc, holdings_add_self]
        exact (hs.apart category).concat hfree
      · rw [holdings_add_of_ne hc]
        exact hs.apart category'
    · intro d hd
      rw [closedAs_add, hopen] at hd
      cases hd
  | attached hopen hlacks =>
    -- an open space has not been closed as anything yet
    refine ⟨fun | .registers => hs.apart .registers | .opcodes => hs.apart .opcodes,
      hlacks.names_nodup hs.names_nodup, ?_⟩
    intro d hd
    rw [attached, hopen] at hd
    cases hd
  | entered hadmits =>
    refine ⟨?_, hadmits.lacks.names_nodup hs.names_nodup, ?_⟩
    · intro category
      cases category with
      | registers => exact (hs.apart .registers).concat hadmits.registersFree
      | opcodes => exact (hs.apart .opcodes).concat hadmits.opcodesFree
    · intro d hd
      rw [entered, hadmits.isOpen] at hd
      cases hd
  | closed hopen =>
    refine ⟨fun | .registers => hs.apart .registers | .opcodes => hs.apart .opcodes,
      hs.names_nodup, ?_⟩
    intro d hd
    cases hd
    rfl

/-- **Every space that can be reached is orderly.** -/
theorem Reachable.orderly {s : SharedSpace ε} (h : s.Reachable) : s.Orderly := by
  induction h with
  | create h =>
    obtain ⟨draft, -, rfl⟩ := create_eq_ok_iff.mp h
    exact orderly_initial _ _
  | after c _ ih => exact ih.step (step_after _ c)

/-- An orderly space can be closed, whether or not it is closed already, and the directory answers
for what it holds. -/
theorem Orderly.ends_close {s : SharedSpace ε} (hs : s.Orderly) :
    close.Ends s { s with closedAs := some s.directory } (.ok s.directory) := by
  unfold Action.Ends close
  split
  · next d hd =>
    rw [← hs.closedAs_eq d hd, ← hd]
    exact ⟨rfl, rfl⟩
  · exact ⟨rfl, rfl⟩

end SharedSpace

end IsaNames
