import IsaNames.Log.Outlet
import IsaNames.Startup
import Mathlib.Data.List.Basic

/-!
# Where records arrive

Requests for log output pile up: each adds a stream, and a forced one takes away what was there before
it.  What has become of an outlet after any requests is told by the ones since the last that was forced,
and by the last level that was asked for.  A request for a level that does not exist fails, but only
after it has changed the streams.

## Main definitions

* `Outlet.Call`, `Outlet.after`, `Outlet.run` — requests as data, and the outlet after them.
* `Outlet.recent` — the calls from the last forced one on.
* `Outlet.leastLevel`, `Outlet.Passes` — which records are written after calls.
* `Outlet.copies` — how often a record is written to a stream.
* `Outlet.OnlyChangesStreams` — what a call does that fails, and what it comes to later.
* `Journal.Step`, `Journal.run` — requests and records in turn.
* `Journal.Arrives` — what becomes of a record after calls.

## Main results

* `Outlet.run_eq` — the outlet after calls is told by the recent ones and by the last level.
* `Journal.record_arrives` — **a record is written once for each recent call that names the stream.**
* `Outlet.failed_call_changes_streams` — **a call that fails changes the streams and nothing else.**
-/

namespace IsaNames.Log

/-- A record leads to a line unless it cannot be written. -/
theorem Record.line?_eq_none_iff {r : Record} {moment : String} :
    r.line? moment = none ↔ r.isWritable = false := by
  unfold line?
  cases r.isWritable <;> simp

namespace Outlet

/-! ### Calls -/

/-- A request for log output. -/
structure Call where
  level : LevelRequest
  stream : String
  force : Bool
  deriving DecidableEq, Repr

/-- The level that a call asks for, if there is such a one. -/
def Call.level? (c : Call) : Option Level := c.level.resolve.toOption

/-- The outlet after a call, whether or not the call fails. -/
def after (o : Outlet) (c : Call) : Outlet := (o.request c.level c.stream c.force).1

/-- The outlet after calls in a row. -/
def run (o : Outlet) (calls : List Call) : Outlet := calls.foldl after o

/-- The calls from the last forced one on, or all of them if none is forced. -/
def recent : List Call → List Call
  | [] => []
  | c :: rest => if rest.any (·.force) then recent rest else c :: rest

/-- The level that the last call asked for that did not fail. -/
def lastLevel? (calls : List Call) : Option Level := (calls.filterMap Call.level?).getLast?

/-- The least level that is written after calls: the last one that was asked for, or that of warnings
if none was asked for or it is unset. -/
def leastLevel (calls : List Call) : Level :=
  match lastLevel? calls with
  | some level => if level = Level.unset then Level.warning else level
  | none => Level.warning

/-- After the calls the level of the record is high enough. -/
def Passes (calls : List Call) (r : Record) : Prop := 0 < r.level ∧ leastLevel calls ≤ r.level

/-- How often a record is written to a stream. -/
def copies (o : Outlet) (r : Record) (stream : String) : Nat :=
  (o.writes r).countP (·.1 == stream)

variable {o : Outlet} {c : Call} {calls earlier later : List Call} {r : Record}

/-! ### Recent calls -/

theorem any_force_eq_false (h : ∀ c ∈ calls, c.force = false) : calls.any (·.force) = false := by
  simpa using h

theorem recent_eq_self (h : ∀ c ∈ calls, c.force = false) : recent calls = calls := by
  cases calls with
  | nil => rfl
  | cons c rest =>
    rw [List.forall_mem_cons] at h
    rw [recent, any_force_eq_false h.2, if_neg Bool.false_ne_true]

/-- Nothing before a forced call is recent. -/
theorem recent_append_of_forced (hc : c.force = true) (hlater : ∀ c' ∈ later, c'.force = false) :
    recent (earlier ++ c :: later) = c :: later := by
  induction earlier with
  | nil => rw [List.nil_append, recent, any_force_eq_false hlater, if_neg Bool.false_ne_true]
  | cons c' rest ih =>
    have hany : (rest ++ c :: later).any (·.force) = true := by simp [hc]
    rw [List.cons_append, recent, hany, if_pos rfl, ih]

/-! ### The outlet after calls -/

theorem after_eq (o : Outlet) (c : Call) : o.after c =
    { handlers := (if c.force then [] else o.handlers) ++ [.stream c.stream]
      level := c.level?.getD o.level
      passesOn := o.passesOn && c.level?.isNone } := by
  unfold after request addStream Call.level?
  cases c.level.resolve with
  | ok level => simp [Except.toOption]
  | error u => simp [Except.toOption]

theorem lastLevel?_cons (c : Call) (rest : List Call) :
    lastLevel? (c :: rest) = (lastLevel? rest).or c.level? := by
  unfold lastLevel?
  cases hc : c.level? with
  | none => simp [hc]
  | some level =>
    rw [List.filterMap_cons_some hc, List.getLast?_cons]
    cases (rest.filterMap Call.level?).getLast? <;> rfl

/-- **The outlet after calls is told by the recent ones and by the last level.** -/
theorem run_eq (o : Outlet) (calls : List Call) : o.run calls =
    { handlers := (if calls.any (·.force) then [] else o.handlers) ++
        (recent calls).map fun c => .stream c.stream
      level := (lastLevel? calls).getD o.level
      passesOn := o.passesOn && (lastLevel? calls).isNone } := by
  induction calls generalizing o with
  | nil => simp [run, recent, lastLevel?]
  | cons c rest ih =>
    have hrun : o.run (c :: rest) = (o.after c).run rest := rfl
    rw [hrun, ih, after_eq, lastLevel?_cons, recent, List.any_cons]
    congr 1
    · -- a forced call among the rest takes away what `c` has left
      cases hrest : rest.any (·.force) with
      | true => simp
      | false =>
        have hself : recent rest = rest := recent_eq_self (by simpa using hrest)
        simp [hself]
    · cases lastLevel? rest <;> rfl
    · cases lastLevel? rest <;> simp

/-- The streams after calls on a new outlet are those that the recent calls name. -/
theorem streams_run_new (calls : List Call) :
    (run {} calls).streams = (recent calls).map (·.stream) := by
  rw [run_eq, streams, List.filterMap_append]
  cases calls.any (·.force) <;> simp [List.filterMap_map]

theorem threshold_run_new (calls : List Call) : (run {} calls).threshold = leastLevel calls := by
  rw [run_eq, threshold, leastLevel]
  cases lastLevel? calls <;> rfl

theorem accepts_run_new_iff (hr : isBelowRoot r.logger = true) :
    (run {} calls).accepts r = true ↔ Passes calls r := by
  simp [accepts, hr, threshold_run_new, Passes]

/-! ### Copies of a record -/

/-- What is written is the line of the record, once for each handler with a stream. -/
theorem writes_of_line {line : String} (h : o.accepts r = true)
    (hline : r.line? Record.epoch = some line) :
    o.writes r = o.streams.map fun stream => (stream, line) := by
  rw [writes, if_pos h, hline]

theorem writes_eq_nil (h : o.accepts r = false ∨ r.line? Record.epoch = none) :
    o.writes r = [] := by
  unfold writes
  rcases h with h | h
  · rw [h, if_neg Bool.false_ne_true]
  · rw [h, ite_self]

theorem copies_of_line {line : String} (h : o.accepts r = true)
    (hline : r.line? Record.epoch = some line) (stream : String) :
    o.copies r stream = o.streams.count stream := by
  rw [copies, writes_of_line h hline, List.countP_map, List.count_eq_countP]
  rfl

theorem copies_eq_zero (h : o.accepts r = false ∨ r.line? Record.epoch = none) (stream : String) :
    o.copies r stream = 0 := by
  rw [copies, writes_eq_nil h, List.countP_nil]

/-! ### Calls that fail -/

/-- What a call that fails does to an outlet, and what it comes to for the records that are written
later. -/
structure OnlyChangesStreams (o : Outlet) (c : Call) : Prop where
  level_eq : (o.after c).level = o.level
  passesOn_eq : (o.after c).passesOn = o.passesOn
  /-- The stream is there all the same; if the call is forced, nothing else is. -/
  handlers_eq : (o.after c).handlers =
    (if c.force then [] else o.handlers) ++ [.stream c.stream]
  /-- A forced call later makes up for it. -/
  run_eq_of_forced : ∀ later : List Call, (∃ c' ∈ later, c'.force = true) →
    (o.after c).run later = o.run later
  /-- The same records are written, whatever is called later. -/
  accepts_eq : ∀ (later : List Call) (r : Record),
    ((o.after c).run later).accepts r = (o.run later).accepts r
  /-- As long as no call is forced, a record that is written goes once more to the stream of the call,
  and, if that was forced, no longer to the streams from before. -/
  copies_eq : ∀ later : List Call, (∀ c' ∈ later, c'.force = false) → ∀ r : Record,
    (o.run later).accepts r = true → r.isWritable = true → ∀ stream,
      (o.run later).copies r stream =
        o.streams.count stream + later.countP (·.stream == stream) ∧
      ((o.after c).run later).copies r stream =
        (if c.force then 0 else o.streams.count stream) +
          (c :: later).countP (·.stream == stream)
  /-- A record that is not accepted, or that cannot be written, goes nowhere in either case. -/
  copies_eq_zero : ∀ (later : List Call) (r : Record),
    (o.run later).accepts r = false ∨ r.isWritable = false → ∀ stream,
      (o.run later).copies r stream = 0 ∧ ((o.after c).run later).copies r stream = 0

theorem streams_run_of_unforced (h : ∀ c ∈ calls, c.force = false) :
    (o.run calls).streams = o.streams ++ calls.map (·.stream) := by
  rw [run_eq, recent_eq_self h, any_force_eq_false h, if_neg Bool.false_ne_true]
  simp [streams, List.filterMap_map]

theorem accepts_congr {o' : Outlet} (h : o'.level = o.level) (r : Record) :
    o'.accepts r = o.accepts r := by
  unfold accepts threshold
  rw [h]

/-- The copies of a record that is written, after calls none of which is forced. -/
theorem copies_run_of_unforced (h : ∀ c ∈ calls, c.force = false)
    (haccepts : (o.run calls).accepts r = true) (hr : r.isWritable = true) (stream : String) :
    (o.run calls).copies r stream =
      o.streams.count stream + calls.countP (·.stream == stream) := by
  obtain ⟨line, hline⟩ : ∃ line, r.line? Record.epoch = some line := by
    rw [← Option.ne_none_iff_exists']
    intro hnone
    rw [Record.line?_eq_none_iff, hr] at hnone
    cases hnone
  rw [copies_of_line haccepts hline, streams_run_of_unforced h, List.count_append]
  congr 1
  rw [List.count_eq_countP, List.countP_map]
  rfl

variable {u : UnknownLevel}

theorem level?_of_error (hc : c.level.resolve = .error u) : c.level? = none := by
  rw [Call.level?, hc]
  rfl

/-- What a call that fails leaves. -/
theorem after_of_error (hc : c.level.resolve = .error u) : o.after c =
    { o with handlers := (if c.force then [] else o.handlers) ++ [.stream c.stream] } := by
  rw [after_eq, level?_of_error hc]
  simp

/-- After a call that fails, later calls lead to the same level as without it. -/
theorem level_run_after_of_error (hc : c.level.resolve = .error u) (later : List Call) :
    ((o.after c).run later).level = (o.run later).level := by
  rw [run_eq, run_eq, after_of_error hc]

/-- The streams after a call that fails: its own comes last. -/
theorem streams_after_of_error (hc : c.level.resolve = .error u) :
    (o.after c).streams = (if c.force then [] else o.streams) ++ [c.stream] := by
  rw [after_of_error hc]
  cases c.force <;> simp [streams]

/-- **A call that fails changes the streams and nothing else.**  For a level that does not exist the
level and the passing on stay as they were, but the stream has been added, and a forced call has taken
away the ones before it.  What this comes to for later records lasts until a call is forced. -/
theorem failed_call_changes_streams (o : Outlet) {c : Call} {u : UnknownLevel}
    (hc : c.level.resolve = .error u) :
    (o.request c.level c.stream c.force).2 = .error u ∧ o.OnlyChangesStreams c := by
  have haccepts : ∀ (later : List Call) (r : Record),
      ((o.after c).run later).accepts r = (o.run later).accepts r :=
    fun later r => accepts_congr (level_run_after_of_error hc later) r
  refine ⟨?_, ?_⟩
  · rw [request, hc]
  · refine ⟨?_, ?_, ?_, ?_, haccepts, ?_, ?_⟩
    · rw [after_of_error hc]
    · rw [after_of_error hc]
    · rw [after_of_error hc]
    · intro later hforced
      have hany : later.any (·.force) = true := by simpa using hforced
      rw [run_eq, run_eq, after_of_error hc, hany]
      rfl
    · intro later hlater r hr hwritable stream
      refine ⟨copies_run_of_unforced hlater hr hwritable stream, ?_⟩
      rw [← haccepts] at hr
      rw [copies_run_of_unforced hlater hr hwritable, streams_after_of_error hc,
        List.count_append, List.countP_cons, List.count_singleton]
      cases c.force <;> simp <;> omega
    · intro later r hr stream
      rw [← @Record.line?_eq_none_iff r Record.epoch] at hr
      refine ⟨copies_eq_zero hr stream, copies_eq_zero ?_ stream⟩
      rwa [haccepts]

/-- Forced, on an outlet with two streams, one of which is the stream of the call. -/
theorem failed_call_changes_streams_of_forced :
    let o := run {} [⟨.named "INFO", "a", false⟩, ⟨.named "DEBUG", "b", false⟩]
    let c : Call := ⟨.named "debug", "b", true⟩
    c.level.resolve = .error ⟨"debug"⟩ ∧
      (o.request c.level c.stream c.force).2 = .error ⟨"debug"⟩ ∧ o.OnlyChangesStreams c := by
  intro o c
  have hc : c.level.resolve = .error ⟨"debug"⟩ := by decide +kernel
  exact ⟨hc, failed_call_changes_streams o hc⟩

/-- The first call for a stream fails, and yet a later warning is written to it. -/
theorem failed_call_opens_stream :
    let o : Outlet := {}
    let c : Call := ⟨.named "FOO", "a", false⟩
    let r : Record := ⟨Level.warning, rootLogger, "m"⟩
    (o.request c.level c.stream c.force).2 = .error ⟨"FOO"⟩ ∧ (o.after c).handlers ≠ o.handlers ∧
      o.copies r "a" = 0 ∧ (o.after c).copies r "a" = 1 := by
  decide +kernel

end Outlet

/-! ### Journals -/

namespace Journal

open Outlet (Call)

/-- What happens to a journal. -/
inductive Step
  /-- Log output is asked for. -/
  | call (c : Call)
  /-- Records are written. -/
  | write (records : List Record)
  deriving DecidableEq, Repr

/-- The journal after a step. -/
def after (j : Journal) : Step → Journal
  | .call c => (j.request c.level c.stream c.force).1
  | .write records => j.write records

/-- The journal after steps in a row. -/
def run (j : Journal) (steps : List Step) : Journal := steps.foldl after j

/-- The call that a step is, if it is one. -/
def Step.call? : Step → Option Call
  | .call c => some c
  | .write _ => none

/-- The calls among steps. -/
def calls (steps : List Step) : List Call := steps.filterMap Step.call?

/-- What becomes of a record that is written after calls: how often it is written is told by the recent
ones. -/
structure Arrives (j : Journal) (calls : List Call) (r : Record) : Prop where
  /-- A record that passes is written to each stream once for each recent call that names it. -/
  written : Outlet.Passes calls r → ∀ line, r.line? Record.epoch = some line → ∀ stream,
    (j.write [r]).text stream = j.text stream ++
      String.join (List.replicate ((Outlet.recent calls).countP (·.stream == stream)) line)
  /-- One that does not pass, or that cannot be written, is written nowhere. -/
  silent : ¬Outlet.Passes calls r ∨ r.isWritable = false → ∀ stream,
    (j.write [r]).text stream = j.text stream
  /-- Directly after a forced call it is written once, and only to the stream of the call. -/
  once : ∀ earlier c, calls = earlier ++ [c] → c.force = true → Outlet.Passes calls r →
    ∀ line, r.line? Record.epoch = some line →
      (j.write [r]).text c.stream = j.text c.stream ++ line ∧
      ∀ stream, stream ≠ c.stream → (j.write [r]).text stream = j.text stream

variable {steps : List Step} {r : Record}

/-- The outlet of a journal does not depend on the records that were written. -/
theorem outlet_run (j : Journal) (steps : List Step) :
    (j.run steps).outlet = j.outlet.run (calls steps) := by
  induction steps generalizing j with
  | nil => rfl
  | cons step rest ih =>
    have hrun : j.run (step :: rest) = (j.after step).run rest := rfl
    rw [hrun, ih]
    cases step <;> rfl

theorem text_write (j : Journal) (r : Record) (stream : String) : (j.write [r]).text stream =
    j.text stream ++ String.join (((j.outlet.writes r).filter (·.1 == stream)).map (·.2)) := by
  simp [text, write, String.join_append]

/-- A record that is written adds as many copies of its line to a stream as calls name the stream. -/
theorem text_write_of_passes (hr : isBelowRoot r.logger = true)
    (hpasses : Outlet.Passes (calls steps) r) {line : String}
    (hline : r.line? Record.epoch = some line) (stream : String) :
    ((run {} steps).write [r]).text stream = (run {} steps).text stream ++
      String.join (List.replicate
        ((Outlet.recent (calls steps)).countP (·.stream == stream)) line) := by
  rw [text_write, outlet_run,
    Outlet.writes_of_line ((Outlet.accepts_run_new_iff hr).mpr hpasses) hline,
    Outlet.streams_run_new]
  congr 2
  rw [List.filter_map, List.map_map, List.filter_map, List.map_map, List.countP_eq_length_filter]
  exact List.map_const' ..

/-- **A record is written once for each recent call that names the stream**, if its level is high enough
and it can be written, and else nowhere. -/
theorem record_arrives (steps : List Step) {r : Record} (hr : isBelowRoot r.logger = true) :
    (run {} steps).Arrives (calls steps) r where
  written := fun hpasses _ hline stream => text_write_of_passes hr hpasses hline stream
  silent := by
    intro h stream
    have hnothing : (run {} steps).outlet.writes r = [] := by
      rw [outlet_run]
      apply Outlet.writes_eq_nil
      rcases h with hpasses | hwritable
      · rw [← Outlet.accepts_run_new_iff hr, Bool.not_eq_true] at hpasses
        exact .inl hpasses
      · exact .inr (Record.line?_eq_none_iff.mpr hwritable)
    rw [text_write, hnothing]
    exact String.append_empty
  once := by
    intro earlier c hcalls hc hpasses line hline
    have hrecent : Outlet.recent (calls steps) = [c] := by
      rw [hcalls]
      exact Outlet.recent_append_of_forced hc (List.forall_mem_nil _)
    have htext := text_write_of_passes hr hpasses hline
    rw [hrecent] at htext
    refine ⟨?_, fun stream hne => ?_⟩
    · rw [htext, List.countP_singleton, if_pos (beq_self_eq_true _)]
      rfl
    · rw [htext, List.countP_singleton, if_neg (by simpa using Ne.symm hne)]
      exact String.append_empty

/-- After a forced call, one that fails for the same stream, and one for another stream. -/
theorem record_arrives_after_failed_call :
    let steps : List Step := [.call ⟨.named "INFO", "c", false⟩, .call ⟨.named "INFO", "a", true⟩,
      .write [⟨Level.info, "archns.space", "n"⟩], .call ⟨.named "FOO", "a", false⟩,
      .call ⟨.number 40, "b", false⟩]
    let r : Record := ⟨Level.error, "archns.names", "m"⟩
    isBelowRoot r.logger = true ∧ (run {} steps).Arrives (calls steps) r ∧
      Outlet.Passes (calls steps) r ∧
      (Outlet.recent (calls steps)).map (·.stream) = ["a", "a", "b"] := by
  intro steps r
  have hr : isBelowRoot r.logger = true := by decide +kernel
  have hpasses : Outlet.Passes (calls steps) r := by
    rw [← Outlet.accepts_run_new_iff hr]
    decide +kernel
  exact ⟨hr, record_arrives steps hr, hpasses, by decide +kernel⟩

/-- A start logs a record about a range with an end that cannot be written.  A forced call has asked for
such records, but no line of it arrives. -/
theorem record_lost :
    let steps : List Step := [.call ⟨.named "DEBUG", "a", true⟩]
    let d : Declaration :=
      ⟨"x", ((Text.leastTooLong - 1 : Nat) : Int), [⟨"r", 1, false⟩], [], 0, []⟩
    ∃ r ∈ (Startup.ofDeclarations [] [d] : Traced (Directory Unit)).log,
      isBelowRoot r.logger = true ∧ Outlet.Passes (calls steps) r ∧
      (Outlet.recent (calls steps)).countP (·.stream == "a") = 1 ∧
      ((run {} steps).write [r]).text "a" = (run {} steps).text "a" := by
  intro steps d
  have hany : (Startup.ofDeclarations [] [d] : Traced (Directory Unit)).log.any (fun r =>
      isBelowRoot r.logger && (run {} steps).outlet.accepts r && !r.isWritable) = true := by
    decide +kernel
  obtain ⟨r, hr, hrecord⟩ := List.any_eq_true.mp hany
  simp only [Bool.and_eq_true, Bool.not_eq_true'] at hrecord
  obtain ⟨⟨hbelow, haccepts⟩, hwritable⟩ := hrecord
  rw [outlet_run] at haccepts
  have hline : r.line? Record.epoch = none := Record.line?_eq_none_iff.mpr hwritable
  refine ⟨r, hr, hbelow, (Outlet.accepts_run_new_iff hbelow).mp haccepts, by decide +kernel, ?_⟩
  rw [text_write, outlet_run, Outlet.writes_eq_nil (.inr hline)]
  exact String.append_empty

end Journal

end IsaNames.Log
