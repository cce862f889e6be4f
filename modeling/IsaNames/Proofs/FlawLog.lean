import IsaNames.Log.Outlet
import IsaNames.Proofs.Closing
import IsaNames.Workspace

/-!
# Each flaw is logged once

A flaw is reported in the log where it arises, and it may arise deep inside a call.  On the way out
it is neither reported again nor replaced by another one.  So the errors in the log are the flaws
that the calls failed with, one for one and in order, and whoever looks at the log of errors sees
what was raised and nothing else.

## Main definitions

* `Traced.Reports`, `Action.Reports` — the errors in the log are just the flaw that a computation
  fails with, if it fails with one.
* `Workspace.Call` — operations, starts and look-ups as data.
* `Action.logged` — what calls in a row write to the log.

## Main results

* `Traced.Reports.bind`, `Action.Reports.bind` — sequences report if their steps do.
* `Workspace.reports_perform`, `Workspace.reports_carryOut` — every operation and every call
  reports.
* `Action.Reports.logged` — so do calls in a row.
* `Workspace.flaws_are_logged_once` — **the errors that reach a stream are the flaws that were
  raised.**
-/

namespace IsaNames

open Log (Record Level Outlet Part)

/-! ### Reporting -/

/-- Whether a record is one of an error. -/
def Log.Record.isError (r : Record) : Bool := r.level == Level.error

/-- The flaw that a computation fails with, if it fails with one. -/
def flaw? {α : Type} : Except Fault α → Option Flaw
  | .error (.flaw f) => some f
  | _ => none

theorem flaw?_eq_none_iff {α : Type} {o : Except Fault α} :
    flaw? o = none ↔ ∀ f, o ≠ .error (.flaw f) := by
  rcases o with (_ | _ | _ | _ | _) | _ <;> simp [flaw?]

theorem flaw?_error {α β : Type} (e : Fault) :
    flaw? (.error e : Except Fault α) = flaw? (.error e : Except Fault β) := by
  cases e <;> rfl

theorem flaw?_map {α β : Type} (o : Except Fault α) (f : α → β) : flaw? (o.map f) = flaw? o := by
  cases o with
  | error e => exact flaw?_error e
  | ok a => rfl

namespace Traced

variable {α β : Type}

/-- The errors that a computation logs are the flaw that it fails with, if it fails with one. -/
def Reports (x : Traced α) : Prop :=
  x.log.filter (·.isError) = (flaw? x.outcome).toList.map (·.notice.record)

namespace Reports

theorem pure (a : α) : (Pure.pure a : Traced α).Reports := rfl

/-- What a failed computation was to answer with does not matter. -/
theorem error {log : List Record} {e : Fault} (h : (⟨log, .error e⟩ : Traced α).Reports) :
    (⟨log, .error e⟩ : Traced β).Reports :=
  h.trans (congrArg (fun f => f.toList.map (·.notice.record)) (flaw?_error e))

/-- A sequence reports if its steps do: what comes after a flaw is not carried out. -/
theorem bind {x : Traced α} {f : α → Traced β} (hx : x.Reports) (hf : ∀ a, (f a).Reports) :
    (x >>= f).Reports := by
  rcases x with ⟨log, e | a⟩
  · exact hx.error
  · have hlog : log.filter (·.isError) = [] := hx
    rw [Reports, ok_bind, List.filter_append, hlog]
    exact hf a

/-- What is made of the result does not matter. -/
theorem map {x : Traced α} (hx : x.Reports) (f : α → β) :
    (⟨x.log, x.outcome.map f⟩ : Traced β).Reports := by
  rw [Reports, flaw?_map]
  exact hx

/-- A record that is not one of an error may be written. -/
theorem note {p : Part} {level : Level} {text : Text.Phrase} (h : level ≠ Level.error) :
    (Traced.note (p.record level text)).Reports := by
  simp [Reports, Traced.note, Part.record, Record.isError, flaw?, h]

/-- A fault that is no flaw is not logged. -/
theorem fail {e : Fault} (h : ∀ f, e ≠ .flaw f) : (Traced.fail e : Traced α).Reports := by
  cases e with
  | flaw f => exact absurd rfl (h f)
  | miss | badRange | tooLong | numberTooLong => rfl

/-- A flaw is logged as it is raised; one that cannot be told is no flaw any more. -/
theorem raise (f : Flaw) : (Traced.raise f : Traced α).Reports := by
  unfold Traced.raise
  split
  · rfl
  · exact fail nofun

theorem flawed (x : Except Flaw α) : (Traced.flawed x).Reports := by
  cases x with
  | ok a => exact pure a
  | error f => exact raise f

theorem ranged (x : Except BadRange α) : (Traced.ranged x).Reports := by
  cases x with
  | ok a => exact pure a
  | error b => exact fail nofun

end Reports

end Traced

namespace Action

variable {σ τ α β : Type}

/-- An action reports in every state. -/
def Reports (x : Action σ α) : Prop := ∀ s, (x s).2.Reports

namespace Reports

theorem pure (a : α) : (Pure.pure a : Action σ α).Reports := fun _ => .pure a

theorem bind {x : Action σ α} {f : α → Action σ β} (hx : x.Reports) (hf : ∀ a, (f a).Reports) :
    (x >>= f).Reports := by
  intro s
  have hs := hx s
  rcases h : x s with ⟨s', log, e | a⟩
  · rw [h] at hs
    rw [bind_of_error h]
    exact hs.error
  · rw [h] at hs
    rw [bind_of_ok h]
    exact hs.bind fun a => hf a s'

theorem lift {x : Traced α} (hx : x.Reports) : (Action.lift x : Action σ α).Reports := fun _ => hx

theorem read : (Action.read : Action σ σ).Reports := fun _ => rfl

theorem update (f : σ → σ) : (Action.update f).Reports := fun _ => rfl

theorem replace {f : σ → Traced σ} (hf : ∀ s, (f s).Reports) : (Action.replace f).Reports := by
  intro s
  have hs := hf s
  unfold Action.replace
  rcases h : f s with ⟨log, e | s'⟩
  · rw [h] at hs
    exact hs.error
  · rw [h] at hs
    exact hs

theorem final {x : Action σ Unit} (hx : x.Reports) (s : σ) : (Action.final x s).Reports := by
  have hs := hx s
  unfold Action.final
  rcases h : x s with ⟨s', log, e | ⟨⟩⟩
  · rw [h] at hs
    exact hs.error
  · rw [h] at hs
    exact hs

theorem within {start : Traced τ} {x : Action (σ × τ) α} (hstart : start.Reports) (hx : x.Reports) :
    (Action.within start x).Reports := by
  intro s
  rcases start with ⟨log, e | t⟩
  · exact hstart.error
  · exact hstart.bind fun t => hx (s, t)

theorem onFirst {x : Action σ α} (hx : x.Reports) : (Action.onFirst x : Action (σ × τ) α).Reports :=
  fun s => hx s.1

theorem onSecond {x : Action τ α} (hx : x.Reports) :
    (Action.onSecond x : Action (σ × τ) α).Reports :=
  fun s => hx s.2

end Reports

end Action

/-! ### Building -/

namespace Lexicon.Draft

theorem reports_validate (d : Draft) (range : IdRange) : (d.validate range).Reports :=
  .bind (.flawed _) fun _ => .note (by decide)

/-- Every call on a draft reports. -/
theorem reports_perform (c : Call) : (perform c).Reports := by
  cases c with
  | assign name id => exact .bind (.replace fun d => .flawed _) fun _ => .pure _
  | setDisplay id name => exact .bind (.replace fun d => .flawed _) fun _ => .pure _
  | link name target =>
    intro d
    unfold perform
    dsimp only
    split
    · exact .raise _
    · exact .pure _
  | validate range => exact fun d => .bind (d.reports_validate range) fun _ => .pure _
  | close => exact fun d => .pure _

end Lexicon.Draft

theorem reports_layBanks (draft : Lexicon.Draft) (first : Int) (banks : List Bank) :
    (layBanks draft first banks).Reports := by
  induction banks generalizing draft first with
  | nil => exact .pure _
  | cons bank rest ih =>
    refine .bind (.ranged _) fun range => .bind (.flawed _) fun draft => ?_
    exact .bind (ih draft _) fun _ => .pure _

theorem Declaration.reports_buildRegisters (d : Declaration) : d.buildRegisters.Reports := by
  refine .bind (reports_layBanks _ _ _) fun laid => .bind (.flawed _) fun overlaid => ?_
  refine .bind (.flawed _) fun draft => .bind (.ranged _) fun range => ?_
  exact .bind (draft.reports_validate range) fun _ => .pure _

theorem Declaration.reports_build (d : Declaration) (generic : List String) :
    (d.build generic).Reports := by
  refine .bind d.reports_buildRegisters fun built => .bind (.flawed _) fun opcodes => ?_
  exact .bind (.ranged _) fun _ => .bind (.ranged _) fun _ => .pure _

/-! ### Registering -/

namespace SharedSpace

variable {ε : Type}

theorem reports_claim (category : Category) (range : IdRange) (namer : Namer ε) (owner : String) :
    (claim category range namer owner).Reports :=
  .replace fun _ => .bind (.flawed _) fun _ => .bind (.note (by decide)) fun _ => .pure _

theorem reports_attach (a : Architecture) : (attach a : Action (SharedSpace ε) Unit).Reports :=
  .replace fun _ => .bind (.flawed _) fun _ => .bind (.flawed _) fun _ => .pure _

theorem reports_enter (a : Architecture) : (enter a : Action (SharedSpace ε) Unit).Reports := by
  refine .bind .read fun s => .bind (.lift (.flawed _)) fun _ => ?_
  refine .bind (reports_claim _ _ _ _) fun _ => .bind (reports_claim _ _ _ _) fun _ => ?_
  exact reports_attach a

theorem reports_create (generic : List String) :
    (create generic : Traced (SharedSpace ε)).Reports :=
  .bind (.flawed _) fun _ => Action.Reports.final (reports_claim _ _ _ _) _

theorem reports_close : (close : Action (SharedSpace ε) (Directory ε)).Reports := by
  intro s
  unfold close
  split
  · exact .pure _
  · have hlog : (Traced.note (closeRecord s.directory.names)).Reports :=
      Traced.Reports.note (by decide)
    exact hlog.map fun _ => s.directory

end SharedSpace

namespace Provider

theorem reports_reportBuild (p : Provider) (a : Architecture) : (p.reportBuild a).Reports := by
  unfold reportBuild
  split
  · exact .bind (.note (by decide)) fun _ => .pure _
  · exact .fail nofun

theorem reports_build (generic : List String) : (build generic).Reports := by
  intro p
  have hbuild := p.declaration.reports_build generic
  unfold build
  split
  · split
    · exact .pure _
    · exact .raise _
  · split
    · next h =>
      rw [h] at hbuild
      exact hbuild
    · next h =>
      rw [h] at hbuild
      exact hbuild.bind fun a => p.reports_reportBuild a

theorem reports_register {ε : Type} :
    (register : Action (SharedSpace ε × Provider) Architecture).Reports := by
  refine .bind .read fun (space, p) => ?_
  dsimp only
  split
  · exact .lift (.raise _)
  · refine .bind (.onSecond (reports_build space.generic)) fun a => ?_
    refine .bind (.onFirst (SharedSpace.reports_enter a)) fun _ => ?_
    exact .bind (.onSecond (.update _)) fun _ => .pure a

end Provider

namespace Startup

variable {ι σ ε α : Type} {register : ι → Action (σ × SharedSpace ε) α}

theorem reports_registerAll (h : ∀ item, (register item).Reports) (items : List ι) :
    (registerAll register items).Reports := by
  induction items with
  | nil => exact .pure ()
  | cons item rest ih => exact .bind (h item) fun _ => ih

/-- A start reports if each registration does. -/
theorem reports_run (generic : List String) (h : ∀ item, (register item).Reports) (items : List ι) :
    (run generic register items).Reports := by
  refine .within (SharedSpace.reports_create generic) ?_
  refine .bind (reports_registerAll h items) fun _ => ?_
  refine .bind (.onSecond SharedSpace.reports_close) fun directory => ?_
  have hlevel : Level.info ≠ Level.error := by decide
  exact .bind (.lift (.note hlevel)) fun _ => .pure directory

theorem reports_ofDeclarations (generic : List String) (declarations : List Declaration) :
    (ofDeclarations generic declarations : Traced (Directory ε)).Reports :=
  reports_run generic (fun _ => .onSecond (.within (.pure _) Provider.reports_register))
    declarations ()

end Startup

/-! ### Operations -/

namespace Workspace

theorem reports_onItem {τ α : Type} (i : Nat) {x : Action τ α} (hx : x.Reports) :
    (onItem i x).Reports := by
  intro items
  unfold onItem
  split
  · exact .pure none
  · exact (hx _).map some

theorem reports_registerItem {ε : Type} (provider : Nat) :
    (registerItem provider :
      Action (List Provider × SharedSpace ε) (Option Architecture)).Reports := by
  rintro ⟨providers, space⟩
  unfold registerItem
  dsimp only
  split
  · exact .pure none
  · next p _ => exact (Provider.reports_register (space, p)).map some

theorem reports_registerBoth (provider space : Nat) : (registerBoth provider space).Reports := by
  intro w
  unfold registerBoth
  split
  · exact .pure none
  · exact reports_registerItem provider _

section Objects

variable {α : Type}

theorem reports_onDrafts {x : Action (List Lexicon.Draft) α} (hx : x.Reports) :
    (onDrafts x).Reports := fun w => hx w.drafts

theorem reports_onProviders {x : Action (List Provider) α} (hx : x.Reports) :
    (onProviders x).Reports := fun w => hx w.providers

theorem reports_onSpaces {x : Action (List (SharedSpace (List Lexicon.Draft))) α}
    (hx : x.Reports) : (onSpaces x).Reports := fun w => hx w.spaces

end Objects

/-- **Every operation reports.** -/
theorem reports_perform (o : Operation) : (perform o).Reports := by
  cases o with
  | newDraft => exact .bind .read fun _ => .bind (.update _) fun _ => .pure _
  | callDraft draft call =>
    exact .bind (reports_onDrafts (reports_onItem draft (Lexicon.Draft.reports_perform call)))
      fun _ => .pure _
  | newProvider => exact .bind .read fun _ => .bind (.update _) fun _ => .pure _
  | build provider generic =>
    exact .bind (reports_onProviders (reports_onItem provider (Provider.reports_build generic)))
      fun _ => .pure _
  | newSpace generic =>
    exact .bind .read fun _ => .bind (.lift (SharedSpace.reports_create generic)) fun _ =>
      .bind (.update _) fun _ => .pure _
  | register provider space => exact .bind (reports_registerBoth provider space) fun _ => .pure _
  | claim space category range namer owner =>
    exact .bind (reports_onSpaces (reports_onItem space (SharedSpace.reports_claim _ _ _ _)))
      fun _ => .pure _
  | check space a =>
    exact .bind (reports_onSpaces (reports_onItem space (.bind .read fun _ => .lift (.flawed _))))
      fun _ => .pure _
  | attach space a =>
    exact .bind (reports_onSpaces (reports_onItem space (SharedSpace.reports_attach a)))
      fun _ => .pure _
  | close space =>
    exact .bind (reports_onSpaces (reports_onItem space SharedSpace.reports_close)) fun _ => .pure _
  | startUp generic providers =>
    exact .bind (reports_onProviders (Startup.reports_run generic reports_registerItem providers))
      fun _ => .pure _

/-! ### Calls -/

/-- What can be asked for: an operation, a start, a range or a position in one, or a look-up in a
lexicon, a directory or an architecture. -/
inductive Call
  | operation (operation : Operation)
  /-- A start with a new provider for each declaration. -/
  | start (generic : List String) (declarations : List Declaration)
  | range (base size : Int)
  | offset (range : IdRange) (id : Int)
  | idOf (lexicon : Lexicon) (name : String)
  | display (lexicon : Lexicon) (id : Int)
  | ask (directory : LiveDirectory) (question : Directory.Question)
  | indexOf (architecture : Architecture) (id : Int)

/-- What is asked of a directory fails if a name is not known or a text cannot be written. -/
def replyOutcome : Directory.Reply → Except Fault Unit
  | .text p => (Fault.write p).map fun _ => ()
  | .architecture found => (found.mapError .miss).map fun _ => ()
  | .id found => (found.mapError .miss).map fun _ => ()
  | .owner _ | .ranges _ | .names _ => .ok ()

/-- A look-up: it changes nothing and writes nothing to the log. -/
def lookUp {α : Type} (find : Workspace → Except Fault α) : Action Workspace Unit := fun w =>
  (w, ⟨[], (find w).map fun _ => ()⟩)

/-- Carries out a call; what it answers with is left aside. -/
def carryOut : Call → Action Workspace Unit
  | .operation o => do
    let _ ← perform o
  | .start generic declarations => Action.lift do
    let _ ← (Startup.ofDeclarations generic declarations : Traced LiveDirectory)
  | .range base size => lookUp fun _ => (IdRange.make base size).mapError .badRange
  | .offset range id => lookUp fun _ => (range.offset id).mapError .badRange
  | .idOf x name => lookUp fun _ => (x.idOf name).mapError .miss
  | .display x id => lookUp fun _ => Fault.write (x.display id)
  | .ask directory question => lookUp fun w => replyOutcome (directory.reply w.drafts question)
  | .indexOf a id => lookUp fun _ => (a.indexOf id).mapError .badRange

theorem flaw?_badRange {α : Type} (x : Except BadRange α) :
    flaw? (x.mapError Fault.badRange) = none := by
  cases x <;> rfl

theorem flaw?_miss {α : Type} (x : Except Miss α) : flaw? (x.mapError Fault.miss) = none := by
  cases x <;> rfl

theorem flaw?_write (p : Text.Phrase) : flaw? (Fault.write p) = none := by
  unfold Fault.write
  split <;> rfl

theorem flaw?_replyOutcome (r : Directory.Reply) : flaw? (replyOutcome r) = none := by
  cases r with
  | text p => rw [replyOutcome, flaw?_map, flaw?_write]
  | architecture found => rw [replyOutcome, flaw?_map, flaw?_miss]
  | id found => rw [replyOutcome, flaw?_map, flaw?_miss]
  | owner | ranges | names => rfl

/-- A look-up that never fails with a flaw reports. -/
theorem reports_lookUp {α : Type} {find : Workspace → Except Fault α}
    (h : ∀ w, flaw? (find w) = none) : (lookUp find).Reports := by
  intro w
  rw [Traced.Reports, lookUp, flaw?_map, h]
  rfl

/-- **Every call reports.** -/
theorem reports_carryOut (c : Call) : (carryOut c).Reports := by
  cases c with
  | operation o => exact .bind (reports_perform o) fun _ => .pure ()
  | start generic declarations =>
    exact .lift (.bind (Startup.reports_ofDeclarations generic declarations) fun _ => .pure ())
  | range base size => exact reports_lookUp fun _ => flaw?_badRange _
  | offset range id => exact reports_lookUp fun _ => flaw?_badRange _
  | idOf x name => exact reports_lookUp fun _ => flaw?_miss _
  | display x id => exact reports_lookUp fun _ => flaw?_write _
  | ask directory question => exact reports_lookUp fun _ => flaw?_replyOutcome _
  | indexOf a id => exact reports_lookUp fun _ => flaw?_badRange _

end Workspace

/-! ### Calls in a row -/

namespace Action

variable {σ κ α : Type}

/-- What calls in a row write to the log. -/
def logged (x : κ → Action σ α) : σ → List κ → List Record
  | _, [] => []
  | s, c :: rest => (x c s).2.log ++ logged x (x c s).1 rest

/-- The flaws that calls in a row fail with, in order. -/
def flaws (x : κ → Action σ α) (s : σ) (calls : List κ) : List Flaw :=
  (history x s calls).filterMap fun r => flaw? r.2

/-- **The errors that calls in a row log are the flaws that they fail with.** -/
theorem Reports.logged {x : κ → Action σ α} (hx : ∀ c, (x c).Reports) (s : σ) (calls : List κ) :
    (Action.logged x s calls).filter (·.isError) = (flaws x s calls).map (·.notice.record) := by
  induction calls generalizing s with
  | nil => rfl
  | cons c rest ih =>
    have hc : (x c s).2.log.filter (·.isError) = _ := hx c s
    rw [Action.logged, List.filter_append, hc, ih, flaws, flaws, history_cons, List.filterMap_cons]
    cases flaw? (x c s).2.outcome <;> rfl

end Action

/-! ### What reaches a stream -/

namespace Log.Outlet

variable {level : LevelRequest} {n : Level}

/-- A forced request leaves one stream and its own level. -/
theorem request_forced (o : Outlet) (stream : String) (hlevel : level.resolve = .ok n) :
    (o.request level stream true).1 =
      { handlers := [.stream stream], level := n, passesOn := false } := by
  simp [request, addStream, hlevel]

/-- After a forced request for a level up to that of errors, what reports a flaw is accepted. -/
theorem accepts_notice (o : Outlet) (stream : String) (hlevel : level.resolve = .ok n)
    (hn : n ≤ Level.error) (f : Flaw) :
    (o.request level stream true).1.accepts f.notice.record = true := by
  have hbelow : isBelowRoot Part.notices.logger = true := by decide +kernel
  have hpositive : (0 : Level) < Level.error := by decide
  have hthreshold : (if n = Level.unset then Level.warning else n) ≤ Level.error := by
    split
    · decide
    · exact hn
  rw [request_forced o stream hlevel]
  simp [accepts, threshold, Notice.record, Part.record, hbelow, hpositive, hthreshold]

/-- It goes to that stream, as one line. -/
theorem writes_notice (o : Outlet) (stream : String) (hlevel : level.resolve = .ok n)
    (hn : n ≤ Level.error) (f : Flaw) :
    (o.request level stream true).1.writes f.notice.record =
      [(stream, "1970-01-01 00:00:00 [ERROR] archns.diagnostics: " ++ f.notice.text ++ "\n")] := by
  have hhead :
      Record.epoch ++ " [" ++ Level.label Level.error ++ "] " ++ Part.notices.logger ++ ": " =
        "1970-01-01 00:00:00 [ERROR] archns.diagnostics: " := by decide +kernel
  have herror : Text.isWritable Level.error = true := by decide +kernel
  have hwritable : f.notice.record.isWritable = true := Bool.and_eq_true_iff.mpr ⟨herror, rfl⟩
  have hline : f.notice.record.line? Record.epoch =
      some ("1970-01-01 00:00:00 [ERROR] archns.diagnostics: " ++ f.notice.text ++ "\n") := by
    rw [← hhead, Record.line?, if_pos hwritable]
    rfl
  rw [writes, if_pos (accepts_notice o stream hlevel hn f), hline, request_forced o stream hlevel]
  simp only [streams, List.filterMap_cons, List.filterMap_nil, List.map_cons, List.map_nil]

end Log.Outlet

namespace Workspace

open Log (LevelRequest)

/-- What an outlet writes of calls in a row tells just the flaws that they fail with. -/
structure TellsFlaws (outlet : Outlet) (stream : String) (w : Workspace) (calls : List Call) :
    Prop where
  /-- The errors that are written are the texts of the flaws, in order. -/
  records : ((Action.logged carryOut w calls).filter outlet.accepts).filter (·.isError) =
    (Action.flaws carryOut w calls).map fun f => ⟨Level.error, "archns.diagnostics", f.notice.text⟩
  /-- Each of them is one line of the stream. -/
  lines : ((Action.logged carryOut w calls).filter (·.isError)).flatMap outlet.writes =
    (Action.flaws carryOut w calls).map fun f =>
      (stream, "1970-01-01 00:00:00 [ERROR] archns.diagnostics: " ++ f.notice.text ++ "\n")
  /-- A call that does not fail, or not with a flaw, logs no error. -/
  silent : ∀ earlier c later, calls = earlier ++ c :: later →
    (∀ f, (carryOut c (Action.afterAll carryOut w earlier)).2.outcome ≠ .error (.flaw f)) →
    ∀ r ∈ (carryOut c (Action.afterAll carryOut w earlier)).2.log, r.level ≠ Level.error

/-- **The errors that reach a stream are the flaws that were raised**, one for one and in order. -/
theorem flaws_are_logged_once (o : Outlet) (stream : String) {level : LevelRequest} {n : Level}
    (hlevel : level.resolve = .ok n) (hn : n ≤ Level.error) (w : Workspace) (calls : List Call) :
    TellsFlaws (o.request level stream true).1 stream w calls where
  records := by
    have haccepted : ∀ r ∈ (Action.flaws carryOut w calls).map (·.notice.record),
        (o.request level stream true).1.accepts r = true := by
      intro r hr
      obtain ⟨f, -, rfl⟩ := List.mem_map.mp hr
      exact Outlet.accepts_notice o stream hlevel hn f
    have hlogger : Part.notices.logger = "archns.diagnostics" := by decide +kernel
    rw [List.filter_comm, Action.Reports.logged reports_carryOut, List.filter_eq_self.mpr haccepted,
      ← hlogger]
    rfl
  lines := by
    rw [Action.Reports.logged reports_carryOut, List.flatMap_map, List.map_eq_flatMap]
    exact List.flatMap_congr fun f _ => Outlet.writes_notice o stream hlevel hn f
  silent := by
    intro earlier c later _ hflaw r hr hlevel
    have hc : (carryOut c (Action.afterAll carryOut w earlier)).2.log.filter (·.isError) = _ :=
      reports_carryOut c _
    rw [flaw?_eq_none_iff.mpr hflaw] at hc
    refine List.filter_eq_nil_iff.mp hc r hr ?_
    rw [Record.isError, hlevel]
    rfl

/-- A name for two IDs, an unknown name, a negative base, and generic mnemonics with the same key:
the first and the last are flaws. -/
theorem flaws_are_logged_once_of_mixed :
    let calls : List Call :=
      [.operation (.newDraft "registro" "R???" true (some "x")),
        .operation (.callDraft 0 (.assign "r0" 1)), .operation (.callDraft 0 (.assign " R0" 2)),
        .idOf { kind := "registro", fallback := "R???" } "r1", .range (-1) 0,
        .start ["nop", "NOP"] []]
    (LevelRequest.named "INFO").resolve = .ok Level.info ∧ Level.info ≤ Level.error ∧
      TellsFlaws (Outlet.request {} (.named "INFO") "log" true).1 "log" {} calls ∧
      (Action.flaws carryOut {} calls).map (·.owner) = [some "x", some "generic"] := by
  intro calls
  have hlevel : (LevelRequest.named "INFO").resolve = .ok Level.info := by decide +kernel
  have hn : Level.info ≤ Level.error := by decide
  exact ⟨hlevel, hn, flaws_are_logged_once {} "log" hlevel hn {} calls, by decide +kernel⟩

end Workspace

end IsaNames
