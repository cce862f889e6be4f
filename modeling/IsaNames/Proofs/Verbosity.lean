import IsaNames.CommandLine.Run
import Mathlib.Data.List.Basic

/-!
# What asking for the log changes

The level of the log is asked for by an option in front of the command.  It is read before anything is
done, and nothing that is done looks at it: the only difference is what stands at the beginning of the
error output.  The more verbose of two levels writes all records that the other one writes, in the
same order.

## Main definitions

* `AsksForLog` — an argument is the option for the level, perhaps shortened.
* `leading` — the arguments in front of the command.
* `Transcript.behind` — what a run puts out, with a log in front of its error output.

## Main results

* `asksForLog_of_classify` — nothing else is read as that option.
* `exists_reading` — without it, a command line is read in the same way whatever the level is.
* `sublist_loggedRecords` — what is written at a level is written at the more verbose ones.
* `level_only_adds_log` — **asking for the log changes nothing but the log.**
-/

namespace IsaNames.CommandLine

open Log (Record Level Outlet)

/-! ### The option for the level -/

variable {edition : Edition}

/-- The argument is the option for the level of the log: two dashes and its name, perhaps shortened,
and perhaps a level behind an equals sign. -/
def AsksForLog (arg : String) : Prop :=
  ∃ name rest, arg.toList = '-' :: '-' :: (name ++ rest) ∧ name ≠ [] ∧
    name <+: Flag.logLevel.longName.toList ∧ (rest = [] ∨ ∃ level, rest = '=' :: level)

namespace Argument

/-- Whether an argument is taken for an operand. -/
def isOperand : Argument → Bool
  | operand _ => true
  | _ => false

/-- What stands behind the name of an option begins with an equals sign. -/
theorem splitValue_spec (cs : List Char) : ∃ rest, cs = (splitValue cs).1 ++ rest ∧
    (rest = [] ∨ ∃ value, rest = '=' :: value) := by
  unfold splitValue
  split
  · exact ⟨[], (List.append_nil cs).symm, .inl rfl⟩
  · next c value h =>
    have hc : c = '=' := by
      have hhead := List.head?_dropWhile_not (· ≠ '=') cs
      rw [h] at hhead
      simpa using hhead
    refine ⟨c :: value, ?_, .inr ⟨value, by rw [hc]⟩⟩
    rw [← h]
    exact (List.takeWhile_append_dropWhile).symm

/-- A name that is read as the one for the level begins it, and does not begin the one for help as
well. -/
theorem prefix_of_classifyLong {cs : List Char} {value : Option String}
    (h : classifyLong programFlags cs = .option .logLevel value) :
    (splitValue cs).1 ≠ [] ∧ (splitValue cs).1 <+: Flag.logLevel.longName.toList := by
  unfold classifyLong at h
  dsimp only at h
  split at h
  · next flag hfind =>
    cases h
    have hname := List.find?_some hfind
    rw [decide_eq_true_eq] at hname
    rw [← hname]
    exact ⟨by decide, List.prefix_refl _⟩
  · split at h
    · next flag hfilter =>
      cases h
      have hmem : Flag.logLevel ∈ programFlags.filter fun flag =>
          (splitValue cs).1.isPrefixOf flag.longName.toList := by
        rw [hfilter]
        exact List.mem_singleton_self _
      refine ⟨?_, List.isPrefixOf_iff_prefix.mp (List.mem_filter.mp hmem).2⟩
      -- nothing at all would begin both names
      intro hempty
      rw [hempty] at hfilter
      cases hfilter
    · unfold ofNoOption at h
      split at h <;> cases h
    · cases h

end Argument

/-- **Nothing else is read as the option for the level.** -/
theorem asksForLog_of_classify {arg : String} {value : Option String}
    (h : Argument.classify edition programFlags arg = .option .logLevel value) : AsksForLog arg := by
  unfold Argument.classify at h
  split at h
  · cases h
  · next cs harg =>
    obtain ⟨rest, hcs, hrest⟩ := Argument.splitValue_spec cs
    obtain ⟨hname, hprefix⟩ := Argument.prefix_of_classifyLong h
    exact ⟨_, rest, by rw [harg, ← hcs], hname, hprefix, hrest⟩
  · -- one dash and a letter can only ask for help
    cases h
  · unfold Argument.ofNoOption at h
    split at h <;> cases h
  · cases h

/-- The arguments in front of the command: they end with the first one that is no option, or with two
dashes. -/
def leading (edition : Edition) (args : List String) : List String :=
  args.takeWhile fun arg => arg ≠ "--" && !(Argument.classify edition programFlags arg).isOperand

/-! ### Reading with a level -/

/-- What a command line comes to, with something done to it if it is accepted. -/
def Reading.map {α β : Type} (f : α → β) : Reading α → Reading β
  | help => .help
  | refused => .refused
  | accepted value => .accepted (f value)

/-- The level has no part in what a command comes to. -/
theorem Reading.exists_complete (surplus : Bool) (r : Reading (Command × Bool)) :
    ∃ reading : Reading Command,
      ∀ logLevel, r.complete logLevel surplus = reading.map (Request.mk logLevel) := by
  cases r with
  | help => exact ⟨.help, fun _ => rfl⟩
  | refused => exact ⟨.refused, fun _ => rfl⟩
  | accepted value =>
    obtain ⟨command, surplus'⟩ := value
    cases hsurplus : surplus || surplus' with
    | true => exact ⟨.refused, fun _ => by simp [complete, hsurplus, map]⟩
    | false => exact ⟨.accepted command, fun _ => by simp [complete, hsurplus, map]⟩

/-- **Without the option, a command line is read in the same way whatever the level is**, and the
level is the one from before. -/
theorem exists_reading {args : List String} (h : ∀ arg ∈ leading edition args, ¬AsksForLog arg)
    (surplus : Bool) : ∃ reading : Reading Command,
      ∀ logLevel, readFrom edition logLevel surplus args = reading.map (Request.mk logLevel) := by
  induction args generalizing surplus with
  | nil => exact ⟨.refused, fun _ => rfl⟩
  | cons arg rest ih =>
    by_cases hdashes : arg = "--"
    · refine ⟨.refused, fun _ => ?_⟩
      rw [readFrom.eq_def]
      simp [hdashes, Reading.map]
    cases harg : Argument.classify edition programFlags arg with
    | operand name =>
      cases hverb : Verb.ofName? name with
      | none =>
        refine ⟨.refused, fun _ => ?_⟩
        rw [readFrom.eq_def]
        simp [hdashes, harg, hverb, Reading.map]
      | some verb =>
        -- from here on the command reads the arguments, and it does not look at the level
        obtain ⟨reading, hreading⟩ := (readArguments edition verb {} rest).exists_complete surplus
        refine ⟨reading, fun _ => ?_⟩
        rw [readFrom.eq_def]
        simp [hdashes, harg, hverb, hreading]
    | option flag value =>
      have hleading : arg ∈ leading edition (arg :: rest) := by
        simp [leading, hdashes, harg, Argument.isOperand]
      cases flag with
      | help =>
        cases value with
        | none =>
          refine ⟨.help, fun _ => ?_⟩
          rw [readFrom.eq_def]
          simp [hdashes, harg, Reading.map]
        | some value =>
          refine ⟨.refused, fun _ => ?_⟩
          rw [readFrom.eq_def]
          simp [hdashes, harg, Reading.map]
      | logLevel => exact absurd (asksForLog_of_classify harg) (h arg hleading)
      | opcodes =>
        refine ⟨.refused, fun _ => ?_⟩
        rw [readFrom.eq_def]
        simp [hdashes, harg, Reading.map]
    | unknown =>
      -- the command line will be refused in the end, unless help is asked for before
      have hrest : ∀ arg ∈ leading edition rest, ¬AsksForLog arg := by
        intro arg' harg'
        apply h
        rw [leading, List.takeWhile_cons_of_pos (by simp [hdashes, harg, Argument.isOperand])]
        exact List.mem_cons_of_mem _ harg'
      obtain ⟨reading, hreading⟩ := ih hrest true
      refine ⟨reading, fun _ => ?_⟩
      rw [readFrom.eq_def]
      simp [hdashes, harg, hreading]
    | ambiguous =>
      refine ⟨.refused, fun _ => ?_⟩
      rw [readFrom.eq_def]
      simp [hdashes, harg, Reading.map]

/-- A level in front of a command line only sets the level. -/
theorem exists_reading_of_level {args : List String}
    (h : ∀ arg ∈ leading edition args, ¬AsksForLog arg) {level : String} (hlevel : level ∈ logLevels) : ∃ reading : Reading Command,
      Request.read edition args = reading.map (Request.mk none) ∧
      Request.read edition ("--log-level" :: level :: args) =
        reading.map (Request.mk (some level)) := by
  obtain ⟨reading, hreading⟩ := exists_reading h false
  have hoption : Argument.classify edition programFlags "--log-level" = .option .logLevel none := by
    cases edition <;> decide +kernel
  have hoperand : ∀ level ∈ logLevels,
      level ≠ "--" ∧ Argument.classify edition programFlags level = .operand level := by
    cases edition <;> decide +kernel
  -- neither of the two arguments is ambiguous, so the check for these finds the same as without them
  have hambiguous : (("--log-level" :: level :: args).takeWhile (· ≠ "--")).any
      (fun arg => Argument.classify edition programFlags arg = .ambiguous) =
        (args.takeWhile (· ≠ "--")).any fun arg =>
          Argument.classify edition programFlags arg = .ambiguous := by
    simp [hoption, hoperand level hlevel]
  have hread : readFrom edition none false ("--log-level" :: level :: args) =
      readFrom edition (some level) false args := by
    rw [readFrom.eq_def]
    simp [hoption, hlevel]
  unfold Request.read
  rw [hambiguous, hread, hreading, hreading]
  split
  · exact ⟨.refused, rfl, rfl⟩
  · exact ⟨reading, rfl, rfl⟩

/-! ### What is written at a level -/

/-- The least level that is written is the one that was asked for. -/
theorem threshold_asked {level : String} (hlevel : level ∈ logLevels) {n : Level}
    (hn : Level.ofName? level = some n) :
    (Outlet.request {} (.named level) "" false).1.threshold = n := by
  have hall : ∀ level ∈ logLevels, Level.ofName? level =
      some (Outlet.request {} (.named level) "" false).1.threshold := by decide +kernel
  rw [hall level hlevel] at hn
  exact Option.some.inj hn

/-- **What is written at a level is written at the more verbose ones**, in the same order. -/
theorem sublist_loggedRecords {level verbose : String} (hlevel : level ∈ logLevels)
    (hverbose : verbose ∈ logLevels) {n m : Level} (hn : Level.ofName? level = some n)
    (hm : Level.ofName? verbose = some m) (hle : m ≤ n) (records : List Record) :
    (loggedRecords level records).Sublist (loggedRecords verbose records) := by
  apply List.monotone_filter_right
  intro r hr
  simp only [Outlet.accepts, threshold_asked hlevel hn, threshold_asked hverbose hm,
    Bool.and_eq_true, decide_eq_true_eq] at hr ⊢
  exact ⟨hr.1, Int.le_trans hle hr.2⟩

/-- What is shown of records that can be written is what the outlet writes to its one stream. -/
theorem logText_eq_writes (complaint : Record → String) (level : String) {records : List Record}
    (h : ∀ r ∈ records, r.isWritable = true) : logText complaint (some level) records =
      String.join ((records.flatMap (Outlet.request {} (.named level) "" false).1.writes).map (·.2)) := by
  have hstreams : (Outlet.request {} (.named level) "" false).1.streams = [""] := by
    unfold Outlet.request
    dsimp only
    split <;> rfl
  rw [logText, loggedRecords]
  refine congrArg String.join ?_
  induction records with
  | nil => rfl
  | cons r rest ih =>
    rw [List.forall_mem_cons] at h
    rw [List.flatMap_cons, List.map_append, ← ih h.2]
    obtain ⟨line, hline⟩ : ∃ line, r.line? Record.epoch = some line := by
      rw [Record.line?, if_pos h.1]
      exact ⟨_, rfl⟩
    cases haccepts : (Outlet.request {} (.named level) "" false).1.accepts r with
    | false =>
      have hnone : (Outlet.request {} (.named level) "" false).1.writes r = [] := by
        simp [Outlet.writes, haccepts]
      rw [List.filter_cons_of_neg (by simp [haccepts]), hnone]
      rfl
    | true =>
      have hone : (Outlet.request {} (.named level) "" false).1.writes r = [("", line)] := by
        simp [Outlet.writes, haccepts, hline, hstreams]
      rw [List.filter_cons_of_pos haccepts, hone, List.map_cons, shownRecord, hline]
      rfl

/-! ### Two runs -/

/-- What a run puts out, with a text in front of its error output. -/
def Transcript.behind (text : String) (t : Transcript) : Transcript := { t with err := text ++ t.err }

/-- A request puts the log in front of what it puts out without one. -/
theorem Request.perform_eq_behind (complaint : Record → String) (c : Command) (level : String)
    (start : Traced (Directory Unit)) :
    (Request.mk (some level) c).perform complaint start =
      ((Request.mk none c).perform complaint start).behind
        (String.join ((loggedRecords level start.log).map (shownRecord complaint))) := by
  unfold perform
  split
  · simp [logText, Transcript.behind]
  · simp [logText, Transcript.behind]
  · dsimp only
    split <;> simp [logText, Transcript.behind]

variable {complaint : Record → String} {generic : List String} {declarations : List Declaration}

theorem perform_of_reading {args : List String} {reading : Reading Command}
    {logLevel : Option String} (h : Request.read edition args = reading.map (Request.mk logLevel)) :
    perform edition complaint generic declarations args = reading.map fun c =>
      (Request.mk logLevel c).perform complaint (Startup.ofDeclarations generic declarations) := by
  unfold perform
  rw [h]
  cases reading <;> rfl

/-- **Asking for the log changes nothing but the log.**  With a level in front of it, a command line
that asks for none is answered as without: with help, with a refusal, or with the same output and the
same ending, where the error output is behind the records that are written at the level.  At a more
verbose level all of these are written, too. -/
theorem level_only_adds_log (complaint : Record → String) (generic : List String)
    (declarations : List Declaration) {args : List String}
    (hargs : ∀ arg ∈ leading edition args, ¬AsksForLog arg) {level : String}
    (hlevel : level ∈ logLevels) :
    let log := (Startup.ofDeclarations generic declarations : Traced (Directory Unit)).log
    perform edition complaint generic declarations ("--log-level" :: level :: args) =
        (perform edition complaint generic declarations args).map
          (·.behind (String.join ((loggedRecords level log).map (shownRecord complaint)))) ∧
      ∀ verbose ∈ logLevels, ∀ n m, Level.ofName? level = some n →
        Level.ofName? verbose = some m → m ≤ n →
          (loggedRecords level log).Sublist (loggedRecords verbose log) := by
  intro log
  constructor
  · obtain ⟨reading, hnone, hsome⟩ := exists_reading_of_level hargs hlevel
    rw [perform_of_reading hnone, perform_of_reading hsome]
    cases reading with
    | help => rfl
    | refused => rfl
    | accepted c => exact congrArg Reading.accepted (Request.perform_eq_behind complaint c level _)
  · intro verbose hverbose n m hn hm hle
    exact sublist_loggedRecords hlevel hverbose hn hm hle log

/-- A register that is not known, with a name that would ask for the log in front of the command. -/
theorem level_only_adds_log_of_miss :
    let declarations : List Declaration := [⟨"x", 0, [⟨"r", 1, false⟩], [], 0, []⟩]
    let args : List String := ["reg", "x", "--", "--log-level"]
    (∀ arg ∈ leading .earlier args, ¬AsksForLog arg) ∧ "INFO" ∈ logLevels ∧
      perform .earlier logComplaint [] declarations args =
        .accepted ⟨"", "ERROR: Registro inválido: --log-level\n", .ok 1⟩ ∧
      perform .earlier logComplaint [] declarations ("--log-level" :: "INFO" :: args) =
        .accepted ⟨"", "1970-01-01 00:00:00 [INFO] archns.bootstrap: espacio de nombres listo: x\n" ++
          "ERROR: Registro inválido: --log-level\n", .ok 1⟩ := by
  intro declarations args
  have hleading : leading .earlier args = [] := by decide +kernel
  have hargs : ∀ arg ∈ leading .earlier args, ¬AsksForLog arg := by
    rw [hleading]
    exact List.forall_mem_nil _
  have hlevel : "INFO" ∈ logLevels := by decide +kernel
  have hplain : perform .earlier logComplaint [] declarations args =
      .accepted ⟨"", "ERROR: Registro inválido: --log-level\n", .ok 1⟩ := by decide +kernel
  have hlog : String.join ((loggedRecords "INFO" (Startup.ofDeclarations [] declarations :
      Traced (Directory Unit)).log).map (shownRecord logComplaint)) =
        "1970-01-01 00:00:00 [INFO] archns.bootstrap: espacio de nombres listo: x\n" := by
    decide +kernel
  refine ⟨hargs, hlevel, hplain, ?_⟩
  rw [(level_only_adds_log logComplaint [] declarations hargs hlevel).1, hplain, hlog]
  rfl

end IsaNames.CommandLine
