import IsaNames.Proofs.Closing

/-!
# What becomes of a provider

A provider may be asked to build and to register any number of times, with any generic mnemonics and
in any spaces, and any of the calls may be refused.  As long as building fails, the provider stays as
good as new.  The first call that gets past building decides which architecture it keeps, and with
which generic mnemonics; from then on it answers with that one or refuses, and it registers it once.

## Main definitions

* `Provider.Call`, `Provider.perform` — the calls on a provider as data.
* `Provider.AnswersWith` — how calls end on a provider that keeps an architecture.
* `Provider.StaysNew`, `Provider.Settles` — runs in which nothing is built, and runs in which one call
  decides what is built.
* `Provider.BuildsFirst` — a registration would be what has the architecture built.

## Main results

* `Provider.perform_kept`, `Provider.perform_new` — what one call does, after building and before.
* `Provider.yields_one_architecture` — **a provider yields one architecture, and registers it once.**
* `Provider.retry_after_refusal` — **a refused registration is as if it had not happened, unless it had
  the architecture built.**
-/

namespace IsaNames.Provider

variable {ε : Type}

/-! ### Calls -/

/-- A call on a provider.  A registration brings its space in whatever state that one is in. -/
inductive Call (ε : Type)
  | build (generic : List String)
  | register (space : SharedSpace ε)

/-- The generic mnemonics that a call builds with. -/
def Call.generic : Call ε → List String
  | .build generic => generic
  | .register space => space.generic

/-- Carries out a call; what it does to a space is left aside. -/
def perform : Call ε → Action Provider Architecture
  | .build generic => build generic
  | .register space => fun p => ((register (space, p)).1.2, (register (space, p)).2)

/-- Whether a call that ended in this way has registered the architecture. -/
def hasRegistered : Call ε × Except Fault Architecture → Bool
  | (.register _, .ok _) => true
  | _ => false

theorem ends_perform_register {s t : SharedSpace ε} {p p' : Provider}
    {o : Except Fault Architecture} (h : register.Ends (s, p) (t, p') o) :
    (perform (.register s)).Ends p p' o :=
  ⟨congrArg Prod.snd h.1, h.2⟩

/-- The registrations that succeed are told by whether the provider is registered. -/
theorem registered_perform (c : Call ε) (p : Provider) :
    (perform c p).1.registered.toNat =
      (hasRegistered (c, (perform c p).2.outcome)).toNat + p.registered.toNat := by
  cases c with
  | build generic =>
    rw [perform, (build_keeps generic p).2]
    exact (Nat.zero_add _).symm
  | register s =>
    rcases register_cases s p with ⟨a, p', hp, -, -, hends⟩ | ⟨e, p', -, hp, hends⟩
    · obtain ⟨hstate, houtcome⟩ := ends_perform_register hends
      rw [hstate, houtcome, hp]
      rfl
    · obtain ⟨hstate, houtcome⟩ := ends_perform_register hends
      rw [hstate, houtcome, hp]
      exact (Nat.zero_add _).symm

/-- **At most one registration succeeds**, and none on a provider that is registered. -/
theorem countP_hasRegistered (p : Provider) (calls : List (Call ε)) :
    (Action.history perform p calls).countP hasRegistered + p.registered.toNat ≤ 1 := by
  induction calls generalizing p with
  | nil => simpa using Bool.toNat_le p.registered
  | cons c rest ih =>
    have hrest := ih (perform c p).1
    rw [registered_perform] at hrest
    rw [Action.history_cons, List.countP_cons]
    cases h : hasRegistered (c, (perform c p).2.outcome) with
    | false =>
      rw [h] at hrest
      simpa using hrest
    | true =>
      rw [h] at hrest
      simpa [Nat.add_assoc] using hrest

/-- Calls on providers whose building ends in the same way end in the same way. -/
theorem ends_perform_congr {c : Call ε} {p q r : Provider} {o : Except Fault Architecture}
    (hp : p.registered = false) (hq : q.registered = false)
    (hpr : (build c.generic).Ends p r o) (hqr : (build c.generic).Ends q r o) :
    (perform c).Ends q (perform c p).1 (perform c p).2.outcome := by
  cases c with
  | build generic =>
    have hends : (perform (.build generic : Call ε)).Ends p r o := hpr
    rw [hends.1, hends.2]
    exact hqr
  | register s => exact ends_perform_register (ends_register_congr hp hq hpr hqr)

/-! ### After building -/

/-- How a call ends on a provider that keeps an architecture that was built with these generic
mnemonics. -/
structure AnswersWith (a : Architecture) (generic : List String)
    (r : Call ε × Except Fault Architecture) : Prop where
  /-- It answers with that architecture if with any. -/
  eq_of_ok : ∀ b, r.2 = .ok b → b = a
  /-- Other generic mnemonics are a flaw. -/
  refuses : r.1.generic ≠ generic → ∃ f, r.2 = .error (.flaw f)
  /-- Building with the same ones succeeds. -/
  builds : r.1 = .build generic → r.2 = .ok a

namespace AnswersWith

variable {a : Architecture} {generic : List String} {c : Call ε}

theorem ok (h : c.generic = generic) : AnswersWith a generic (c, .ok a) where
  eq_of_ok := fun _ hb => (Except.ok.inj hb).symm
  refuses := fun hne => absurd h hne
  builds := fun _ => rfl

theorem flaw (h : c ≠ .build generic) (f : Flaw) : AnswersWith a generic (c, .error (.flaw f)) where
  eq_of_ok := nofun
  refuses := fun _ => ⟨f, rfl⟩
  builds := fun hc => absurd hc h

/-- A space may refuse the architecture with any fault. -/
theorem refused {s : SharedSpace ε} (h : s.generic = generic) (e : Fault) :
    AnswersWith a generic (.register s, .error e) where
  eq_of_ok := nofun
  refuses := fun hne => absurd h hne
  builds := nofun

end AnswersWith

/-- The flaw that an architecture was built with other generic mnemonics can be told. -/
theorem fault_otherGeneric (p : Provider) :
    (p.flaw .otherGeneric).fault = .flaw (p.flaw .otherGeneric) :=
  Flaw.fault_of_numbers_eq_nil rfl

/-- **A provider that keeps an architecture goes on to keep it**, and answers with it or refuses. -/
theorem perform_kept {p : Provider} {a : Architecture} {generic : List String}
    (hp : p.built = some (a, generic)) (c : Call ε) :
    ∃ p' o, (perform c).Ends p p' o ∧ p'.built = some (a, generic) ∧
      AnswersWith a generic (c, o) := by
  cases c with
  | build other =>
    by_cases h : other = generic
    · rw [h]
      exact ⟨p, .ok a, ends_build_kept hp, hp, .ok rfl⟩
    · have hends := ends_build_other hp h
      rw [fault_otherGeneric] at hends
      exact ⟨p, _, hends, hp, .flaw (fun hc => h (Call.build.inj hc)) _⟩
  | register s =>
    by_cases hreg : p.registered = true
    · have hends := ends_register_registered s hreg
      rw [Flaw.fault_of_numbers_eq_nil rfl] at hends
      exact ⟨p, _, ends_perform_register hends, hp, .flaw (by simp) _⟩
    rw [Bool.not_eq_true] at hreg
    by_cases h : s.generic = generic
    · have hbuild : (build s.generic).Ends p p (.ok a) := by
        rw [h]
        exact ends_build_kept hp
      cases hcheck : s.checkAdmissible a with
      | ok _ =>
        have hadmits := SharedSpace.checkAdmissible_eq_ok_iff.mp hcheck
        have hends := ends_register_admitted hreg hbuild hadmits
        exact ⟨_, _, ends_perform_register hends, hp, .ok h⟩
      | error f =>
        have hends := ends_register_notAdmitted hreg hbuild hcheck
        exact ⟨p, _, ends_perform_register hends, hp, .refused h _⟩
    · have hends := ends_register_notBuilt hreg (ends_build_other hp h)
      rw [fault_otherGeneric] at hends
      exact ⟨p, _, ends_perform_register hends, hp, .flaw (by simp) _⟩

/-- So it does through any calls. -/
theorem run_kept {p : Provider} {a : Architecture} {generic : List String}
    (hp : p.built = some (a, generic)) (calls : List (Call ε)) :
    (Action.afterAll perform p calls).built = some (a, generic) ∧
      ∀ r ∈ Action.history perform p calls, AnswersWith a generic r := by
  induction calls generalizing p with
  | nil => exact ⟨hp, List.forall_mem_nil _⟩
  | cons c rest ih =>
    obtain ⟨p', o, hc, hbuilt, hanswers⟩ := perform_kept hp c
    obtain ⟨hkept, hall⟩ := ih hbuilt
    rw [Action.afterAll_cons, Action.history_cons, hc.1, hc.2]
    exact ⟨hkept, List.forall_mem_cons.mpr ⟨hanswers, hall⟩⟩

/-! ### Before building -/

/-- **A call on a new provider fails as building does**, or else it goes on as if the architecture had
been built before. -/
theorem perform_new {d : Declaration} (hcount : registerTotal d.banks ≤ IdRange.lengthLimit)
    (c : Call ε) :
    (∃ e, (build c.generic { declaration := d }).2.outcome = .error e ∧
      (perform c).Ends { declaration := d } { declaration := d } (.error e)) ∨
    ∃ a, d.BuildsInto c.generic a ∧
      (perform c).Ends { declaration := d }
        (perform c { declaration := d, built := some (a, c.generic) }).1
        (perform c { declaration := d, built := some (a, c.generic) }).2.outcome := by
  cases hbuild : (d.build c.generic).outcome with
  | error e =>
    have hends : (build c.generic).Ends { declaration := d } { declaration := d } (.error e) :=
      ends_build_error rfl hbuild
    refine .inl ⟨e, hends.2, ?_⟩
    cases c with
    | build generic => exact hends
    | register s => exact ends_perform_register (ends_register_notBuilt rfl hends)
  | ok a =>
    have hnew : d.BuildsInto c.generic a := (outcome_build_fresh hcount).trans hbuild
    have hfirst : (build c.generic).Ends { declaration := d }
        { declaration := d, built := some (a, c.generic) } (.ok a) :=
      ⟨(ends_build_first rfl hbuild).1, hnew⟩
    exact .inr ⟨a, hnew, ends_perform_congr rfl rfl (ends_build_kept rfl) hfirst⟩

/-! ### Declarations of one bank, and new spaces -/

/-- One bank, and one mnemonic after at most one generic one. -/
def oneBank (count : Nat) : Declaration where
  name := "x"
  registerBase := 0
  banks := [⟨"r", count, false⟩]
  conventionNames := []
  opcodeBase := 1
  mnemonics := ["add"]

/-- However many registers the bank has, the declaration can be built. -/
theorem wellFormed_oneBank (count : Nat) : (oneBank count).WellFormed [] where
  base_nonneg := Int.le_refl 0
  count_nonneg := by simp [oneBank]
  keys_nodup := by
    have hr : Text.IsSettled 'r' := ⟨by decide, by decide, by decide +kernel⟩
    have hstem : ∀ c ∈ "r".toList, Text.IsSettled c ∧ Text.isBlank c = false := by
      intro c hc
      rw [List.mem_singleton.mp hc]
      exact ⟨hr, by decide⟩
    simpa [Declaration.registers, oneBank, layOut] using
      Bank.nodup_keys_numbered (b := ⟨"r", count, false⟩) hstem 0
  overlays := by
    refine ⟨[], .nil, ?_⟩
    intro r hr hshows
    simp only [Declaration.registers, oneBank, layOut, List.append_nil, Bank.numbered_eq] at hr
    obtain ⟨i, -, rfl⟩ := List.mem_map.mp hr
    cases hshows
  length_le_base := by simp [oneBank]
  key_ne_empty := by
    intro name hname
    rw [List.mem_singleton.mp hname]
    decide +kernel
  mnemonics_nodup := List.nodup_singleton _

theorem exists_build_oneBank (count : Nat) :
    ∃ a, ((oneBank count).build []).outcome = .ok a ∧ a.registerRange.size = count := by
  have hwf := wellFormed_oneBank count
  obtain ⟨⟨x, ranges⟩, hregs⟩ :=
    Declaration.exists_buildRegisters_iff.mpr hwf.toRegistersWellFormed
  refine ⟨_, Declaration.build_eq_ok_iff.mpr ⟨x, ranges, hregs, hwf.toOpcodesWellFormed, rfl⟩, ?_⟩
  simp [oneBank, registerCount]

/-- A space that was just created. -/
def newSpace (generic : List String) : SharedSpace Unit :=
  .initial generic (genericDraft SharedSpace.genericOwner generic).content

theorem reachable_newSpace {generic : List String} (h : GenericWellFormed generic) :
    (newSpace generic).Reachable :=
  .create (SharedSpace.create_eq_ok_iff_wellFormed.mpr ⟨h, rfl⟩)

/-- A space without generic mnemonics that was closed. -/
def closedSpace : SharedSpace Unit := (newSpace []).after .close

/-- A provider after a closed space refused what it built. -/
def refused : Provider := (register (closedSpace, { declaration := oneBank 1 })).1.2

theorem ends_register_closedSpace :
    ∃ e, register.Ends (closedSpace, { declaration := oneBank 1 }) (closedSpace, refused)
      (.error e) := by
  have hclosed : ¬closedSpace.IsOpen := nofun
  obtain ⟨e, p', -, -, hends, -⟩ := ends_register_closed hclosed { declaration := oneBank 1 }
  have hstate : refused = p' := congrArg Prod.snd hends.1
  rw [hstate]
  exact ⟨e, hends⟩

/-- A registration that fails because the registers are too many to be reported succeeds when it is
tried again. -/
theorem ends_register_uncounted {count : Nat} (h : IdRange.lengthLimit < count) :
    ∃ p' t a,
      register.Ends (newSpace [], { declaration := oneBank count }) (newSpace [], p')
        (.error .tooLong) ∧
      register.Ends (newSpace [], p') t (.ok a) := by
  obtain ⟨a, ha, hsize⟩ := exists_build_oneBank count
  have hreport : (reportBuild { declaration := oneBank count } a).outcome = .error .tooLong := by
    have hlength : a.registerRange.length? = none := by
      rw [IdRange.length?, hsize, if_neg (Nat.not_le.mpr h)]
    rw [reportBuild, hlength]
    rfl
  have hfirst := ends_build_first (p := { declaration := oneBank count }) rfl ha
  rw [hreport] at hfirst
  exact ⟨_, _, a, ends_register_notBuilt rfl hfirst,
    ends_register_admitted rfl (ends_build_kept rfl) (Declaration.admits_initial_of_build ha _)⟩

/-! ### Runs -/

/-- Building fails in each of the calls, and the provider stays as good as new. -/
structure StaysNew (d : Declaration) (calls : List (Call ε)) : Prop where
  /-- Each call fails as it does with a new provider. -/
  fails : ∀ r ∈ Action.history perform { declaration := d } calls,
    ∃ e, r.2 = .error e ∧ (build r.1.generic { declaration := d }).2.outcome = .error e
  unchanged : ∀ earlier, earlier <+: calls →
    Action.afterAll perform { declaration := d } earlier = { declaration := d }

theorem StaysNew.nil (d : Declaration) : StaysNew d ([] : List (Call ε)) where
  fails := List.forall_mem_nil _
  unchanged := by
    intro earlier h
    rw [List.prefix_nil.mp h]
    rfl

theorem StaysNew.cons {d : Declaration} {c : Call ε} {rest : List (Call ε)} {e : Fault}
    (he : (build c.generic { declaration := d }).2.outcome = .error e)
    (hc : (perform c).Ends { declaration := d } { declaration := d } (.error e))
    (h : StaysNew d rest) : StaysNew d (c :: rest) where
  fails := by
    rw [Action.history_cons, hc.1, hc.2]
    exact List.forall_mem_cons.mpr ⟨⟨e, rfl, he⟩, h.fails⟩
  unchanged := by
    intro earlier hprefix
    rcases List.prefix_cons_iff.mp hprefix with rfl | ⟨more, rfl, hmore⟩
    · rfl
    · rw [Action.afterAll_cons, hc.1]
      exact h.unchanged more hmore

/-- The call `c` is the first one that gets past building, and its architecture is kept from then
on. -/
structure Settles (d : Declaration) (a : Architecture) (earlier : List (Call ε)) (c : Call ε)
    (later : List (Call ε)) : Prop where
  before : StaysNew d earlier
  /-- The architecture is the one that a new provider builds. -/
  builds : d.BuildsInto c.generic a
  keeps : ∀ more, more <+: later →
    (Action.afterAll perform { declaration := d } (earlier ++ c :: more)).built = some (a, c.generic)
  answers : ∀ r ∈ Action.history perform (Action.afterAll perform { declaration := d } earlier)
    (c :: later), AnswersWith a c.generic r

/-- A run in which building fails, or one in which a call gets past it. -/
theorem staysNew_or_settles {d : Declaration}
    (hcount : registerTotal d.banks ≤ IdRange.lengthLimit) (calls : List (Call ε)) :
    StaysNew d calls ∨
      ∃ earlier c later a, calls = earlier ++ c :: later ∧ Settles d a earlier c later := by
  induction calls with
  | nil => exact .inl (.nil d)
  | cons c rest ih =>
    rcases perform_new hcount c with ⟨e, he, hc⟩ | ⟨a, ha, hc⟩
    · rcases ih with h | ⟨earlier, c', later, a, rfl, h⟩
      · exact .inl (.cons he hc h)
      · refine .inr ⟨c :: earlier, c', later, a, rfl, .cons he hc h.before, h.builds, ?_, ?_⟩
        · simp only [List.cons_append, Action.afterAll_cons, hc.1]
          exact h.keeps
        · rw [Action.afterAll_cons, hc.1]
          exact h.answers
    · -- from the first call on the run is that of a provider that keeps the architecture
      have hbuilt : ({ declaration := d, built := some (a, c.generic) } : Provider).built =
          some (a, c.generic) := rfl
      refine .inr ⟨[], c, rest, a, rfl, .nil d, ha, ?_, ?_⟩
      · intro more _
        rw [List.nil_append, Action.afterAll_cons, hc.1]
        exact (run_kept hbuilt (c :: more)).1
      · rw [Action.afterAll_nil, Action.history_cons, hc.1, hc.2]
        exact (run_kept hbuilt (c :: rest)).2

/-- **A provider yields one architecture, and registers it at most once.**  Through any calls, refused
ones included, either building fails each time, and the provider stays as good as new, or there is a
first call that gets past building.  Then the provider keeps what a new provider of its declaration
builds with the generic mnemonics of that call: every call that succeeds answers with it, other
generic mnemonics are a flaw, and building with the same ones goes on to succeed. -/
theorem yields_one_architecture {d : Declaration}
    (hcount : registerTotal d.banks ≤ IdRange.lengthLimit) (calls : List (Call ε)) :
    (Action.history perform { declaration := d } calls).countP hasRegistered ≤ 1 ∧
      (StaysNew d calls ∨
        ∃ earlier c later a, calls = earlier ++ c :: later ∧ Settles d a earlier c later) :=
  ⟨countP_hasRegistered { declaration := d } calls, staysNew_or_settles hcount calls⟩

/-- Building fails, a closed space refuses what was built, other generic mnemonics are refused, and a
second registration is. -/
def refusals : List (Call Unit) :=
  [.build ["nop", "mov"], .register ((newSpace ["nop"]).after .close), .build [],
    .register (newSpace ["nop"]), .register (newSpace ["nop"])]

theorem yields_one_architecture_of_refusals :
    registerTotal (oneBank 1).banks ≤ IdRange.lengthLimit ∧
      (Action.history perform { declaration := oneBank 1 } refusals).countP hasRegistered ≤ 1 ∧
      ∃ earlier c later a, refusals = earlier ++ c :: later ∧ Settles (oneBank 1) a earlier c later := by
  have hcount : registerTotal (oneBank 1).banks ≤ IdRange.lengthLimit := by decide
  obtain ⟨honce, hnew | hsettles⟩ := yields_one_architecture hcount refusals
  · -- one of the calls succeeds
    have hany : ((Action.history perform { declaration := oneBank 1 } refusals).any
        fun r => r.2.isOk) = true := by decide +kernel
    obtain ⟨r, hr, hok⟩ := List.any_eq_true.mp hany
    obtain ⟨e, he, -⟩ := hnew.fails r hr
    rw [he] at hok
    cases hok
  · exact ⟨hcount, honce, hsettles⟩

/-! ### Registering again -/

/-- A registration with these generic mnemonics would be what has the architecture built. -/
def BuildsFirst (p : Provider) (generic : List String) : Prop :=
  p.registered = false ∧ p.built = none ∧ ∃ a, (p.declaration.build generic).outcome = .ok a

/-- The report on an architecture fails only if the number of its registers cannot be told. -/
theorem outcome_reportBuild (p : Provider) (a : Architecture) :
    (p.reportBuild a).outcome = .ok a ∨ (p.reportBuild a).outcome = .error .tooLong := by
  unfold reportBuild
  split
  · exact .inl rfl
  · exact .inr rfl

/-- What a refused registration leaves of a provider: the provider as it was, unless it had the
architecture built; that one is kept, and unless its registers are too many to be reported, building
it had succeeded. -/
theorem of_ends_register_error {s t : SharedSpace ε} {p p' : Provider} {e : Fault}
    (h : register.Ends (s, p) (t, p') (.error e)) :
    t = s ∧ (¬p.BuildsFirst s.generic ∧ p' = p ∨
      p.BuildsFirst s.generic ∧ ∃ a, p' = { p with built := some (a, s.generic) } ∧
        (e ≠ .tooLong → (build s.generic).Ends p p' (.ok a))) := by
  obtain ⟨rfl, ⟨hp, rfl⟩ | ⟨hp, o, hbuild, he⟩⟩ := eq_of_ends_register_error h
  · refine ⟨rfl, .inl ⟨?_, rfl⟩⟩
    rintro ⟨hp', -⟩
    rw [hp] at hp'
    cases hp'
  refine ⟨rfl, ?_⟩
  cases hbuilt : p.built with
  | some kept =>
    have hnot : ¬p.BuildsFirst t.generic := by
      rintro ⟨-, hnone, -⟩
      rw [hbuilt] at hnone
      cases hnone
    by_cases hgeneric : t.generic = kept.2
    · rw [hgeneric] at hbuild
      exact .inl ⟨hnot, (hbuild.unique (ends_build_kept hbuilt)).1⟩
    · exact .inl ⟨hnot, (hbuild.unique (ends_build_other hbuilt hgeneric)).1⟩
  | none =>
    cases hd : (p.declaration.build t.generic).outcome with
    | error e' =>
      refine .inl ⟨?_, (hbuild.unique (ends_build_error hbuilt hd)).1⟩
      rintro ⟨-, -, a, ha⟩
      rw [hd] at ha
      cases ha
    | ok a =>
      obtain ⟨rfl, rfl⟩ := hbuild.unique (ends_build_first hbuilt hd)
      refine .inr ⟨⟨hp, hbuilt, a, hd⟩, a, rfl, ?_⟩
      intro hne
      rcases outcome_reportBuild p a with hok | herror
      · rwa [hok] at hbuild
      · exact absurd (he _ herror).symm hne

/-- **A refused registration is as if it had not happened, unless it had the architecture built.**  The
space is as it was.  If nothing was built by the registration, then whatever space the provider is
registered in next, it ends as it would have without it.  If the architecture was built, it is kept:
in spaces with the same generic mnemonics the next registration ends as it would have, unless its
registers were too many to be reported, and in spaces with other ones it is refused for that. -/
theorem retry_after_refusal {s₁ t : SharedSpace ε} {p p' : Provider} {e : Fault}
    (h : register.Ends (s₁, p) (t, p') (.error e)) :
    t = s₁ ∧ ∀ s₂ : SharedSpace ε,
      (¬p.BuildsFirst s₁.generic ∨ s₂.generic = s₁.generic ∧ e ≠ .tooLong →
        register.Ends (s₂, p') (register (s₂, p)).1 (register (s₂, p)).2.outcome) ∧
      (p.BuildsFirst s₁.generic ∧ s₂.generic ≠ s₁.generic →
        register.Ends (s₂, p') (s₂, p') (.error (.flaw (p.flaw .otherGeneric)))) := by
  obtain ⟨rfl, hcases⟩ := of_ends_register_error h
  refine ⟨rfl, fun s₂ => ?_⟩
  rcases hcases with ⟨hnot, rfl⟩ | ⟨hfirst, a, rfl, hbuild⟩
  · exact ⟨fun _ => Action.ends_self _ _, fun hother => absurd hother.1 hnot⟩
  constructor
  · rintro (hnot | ⟨hgeneric, he⟩)
    · exact absurd hfirst hnot
    · have hp := hbuild he
      rw [← hgeneric] at hp ⊢
      exact ends_register_congr hfirst.1 hfirst.1 hp (ends_build_kept rfl)
  · rintro ⟨-, hgeneric⟩
    have hreg : ({ p with built := some (a, t.generic) } : Provider).registered = false := hfirst.1
    rw [← fault_otherGeneric]
    exact ends_register_notBuilt hreg (ends_build_other rfl hgeneric)

/-- After a refusal by a closed space the architecture is registered in an open one. -/
theorem retry_after_refusal_by_closed :
    (∃ e, register.Ends (closedSpace, { declaration := oneBank 1 }) (closedSpace, refused) (.error e)) ∧
      register.Ends (newSpace [], refused) (register (newSpace [], { declaration := oneBank 1 })).1
        (register (newSpace [], { declaration := oneBank 1 })).2.outcome ∧
      (register (newSpace [], { declaration := oneBank 1 })).2.outcome.isOk = true := by
  obtain ⟨e, hends⟩ := ends_register_closedSpace
  have hne : (register (closedSpace, { declaration := oneBank 1 })).2.outcome ≠ .error .tooLong := by
    decide +kernel
  have he : e ≠ .tooLong := by
    rintro rfl
    exact hne hends.2
  have hgeneric : (newSpace []).generic = closedSpace.generic := rfl
  exact ⟨⟨e, hends⟩, ((retry_after_refusal hends).2 (newSpace [])).1 (.inr ⟨hgeneric, he⟩),
    by decide +kernel⟩

/-- A closed space refuses the architecture, but it is kept; after that a space with other generic
mnemonics refuses it too, although it would take it from a new provider.  And where there are too many
registers to be reported, the first registration fails and the second one succeeds. -/
theorem refusal_not_undone :
    (closedSpace.Reachable ∧ (newSpace ["nop"]).Reachable ∧
      (∃ e, register.Ends (closedSpace, { declaration := oneBank 1 }) (closedSpace, refused)
        (.error e)) ∧
      (register (newSpace ["nop"], { declaration := oneBank 1 })).2.outcome.isOk = true ∧
      (register (newSpace ["nop"], refused)).2.outcome =
        .error (.flaw (refused.flaw .otherGeneric))) ∧
    ∃ p' t a,
      register.Ends (newSpace [], { declaration := oneBank (IdRange.lengthLimit + 1) }) (newSpace [], p')
        (.error .tooLong) ∧
      register.Ends (newSpace [], p') t (.ok a) := by
  have h₁ : (newSpace []).Reachable := reachable_newSpace ⟨by decide, by decide⟩
  have h₂ : (newSpace ["nop"]).Reachable :=
    reachable_newSpace ⟨by decide +kernel, by decide +kernel⟩
  exact ⟨⟨.after .close h₁, h₂, ends_register_closedSpace, by decide +kernel, by decide +kernel⟩,
    ends_register_uncounted (Nat.lt_succ_self _)⟩

end IsaNames.Provider
