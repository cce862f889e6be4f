import IsaNames.CommandLine.Run

/-!
# The editions of the rules for options

The editions differ in what they make of characters behind `-h` and of two dashes in the place of a
level.  The first of these ends in help or in a refusal whatever the edition is, so there is none of it
on a command line that is accepted.  What is left is the level.

## Main results

* `Argument.classify_eq_of_ne_help` — what asks for no help is the same by all editions.
* `readArguments_eq_of_accepted`, `readFrom_eq_of_accepted` — so are accepted arguments of a command, and
  what stands in front of it.
* `Request.read_eq_of_accepted` — **an accepted command line is the same request by all editions**, unless
  two dashes ask for no level.
* `runBy_eq_of_later` — what the later rules accept ends in the same way by all editions.
-/

namespace IsaNames.CommandLine

variable {edition edition' : Edition} {args : List String}

/-! ### Arguments -/

/-- **What asks for no help is the same by all editions.** -/
theorem Argument.classify_eq_of_ne_help {flags : List Flag} {arg : String} {argument : Argument}
    (h : classify edition flags arg = argument) (hne : ∀ value, argument ≠ .option .help value) :
    classify edition' flags arg = argument := by
  unfold classify at h ⊢
  split at h
  · exact h
  · exact h
  · exact absurd h.symm (hne _)
  · exact h
  · exact h

/-- A level is asked for alike by all editions, if it is one. -/
theorem levelOf?_eq_some {value : String} {level : Option String}
    (h : levelOf? edition value = some level) (hvalue : value = "--" → edition = .later) :
    levelOf? edition' value = some level := by
  unfold levelOf? at h ⊢
  by_cases hlevel : logLevels.contains value = true
  · rwa [if_pos hlevel] at h ⊢
  · rw [if_neg hlevel] at h
    split at h
    · next hnone =>
      simp only [Bool.and_eq_true, decide_eq_true_eq] at hnone
      cases hnone.1.symm.trans (hvalue hnone.2)
    · cases h

/-! ### Command lines -/

/-- The arguments of an accepted command are read alike by all editions. -/
theorem readArguments_eq_of_accepted {verb : Verb} {p : Progress} {accepted : Command × Bool}
    (h : readArguments edition verb p args = .accepted accepted) :
    readArguments edition' verb p args = .accepted accepted := by
  induction args generalizing p with
  | nil => exact h
  | cons arg rest ih =>
    rw [readArguments] at h ⊢
    by_cases hdashes : arg = "--"
    · rwa [if_pos hdashes] at h ⊢
    rw [if_neg hdashes] at h ⊢
    -- help would have ended the reading
    have hsame : Argument.classify edition' verb.flags arg =
        Argument.classify edition verb.flags arg := by
      refine Argument.classify_eq_of_ne_help rfl ?_
      intro value hhelp
      rw [hhelp] at h
      cases value <;> cases h
    rw [hsame]
    generalize Argument.classify edition verb.flags arg = argument at h ⊢
    cases argument with
    | operand text =>
      dsimp only at h ⊢
      split at h
      · next hroom =>
        rw [if_pos hroom]
        split at h
        · next hadmissible =>
          rw [if_pos hadmissible]
          exact ih h
        · cases h
      · next hroom =>
        rw [if_neg hroom]
        exact ih h
    | option flag value =>
      cases flag <;> cases value <;> first | exact ih h | cases h
    | unknown => exact ih h
    | ambiguous => cases h

theorem exists_of_complete {logLevel : Option String} {before : Bool}
    {reading : Reading (Command × Bool)} {r : Request}
    (h : reading.complete logLevel before = .accepted r) :
    ∃ surplus, reading = .accepted (r.command, surplus) := by
  cases reading with
  | help => cases h
  | refused => cases h
  | accepted value =>
    obtain ⟨command, surplus⟩ := value
    simp only [Reading.complete] at h
    split at h
    · cases h
    · cases h
      exact ⟨surplus, rfl⟩

/-- So is a command line, with what stands in front of the command. -/
theorem readFrom_eq_of_accepted {logLevel : Option String} {surplus : Bool} {r : Request}
    (h : readFrom edition logLevel surplus args = .accepted r)
    (hlevels : ∀ arg ∈ args,
      Argument.classify edition programFlags arg = .option .logLevel (some "--") → edition = .later) :
    readFrom edition' logLevel surplus args = .accepted r := by
  fun_induction readFrom edition logLevel surplus args with
  | case3 logLevel surplus arg rest hdashes name harg verb hverb =>
    -- from the name of a command on, its arguments decide
    have harg' : Argument.classify edition' programFlags arg = .operand name :=
      Argument.classify_eq_of_ne_help harg nofun
    obtain ⟨surplus', hread⟩ := exists_of_complete h
    have hread' : readArguments edition' verb {} rest = .accepted (r.command, surplus') :=
      readArguments_eq_of_accepted hread
    rw [readFrom.eq_def]
    simp only [hdashes, harg', hverb, if_false]
    rw [hread] at h
    rwa [hread']
  | case6 logLevel surplus arg rest hdashes value harg level hlevel ih =>
    -- a level behind an equals sign, which is where the editions could part
    have harg' : Argument.classify edition' programFlags arg = .option .logLevel (some value) :=
      Argument.classify_eq_of_ne_help harg nofun
    have hlevel' : levelOf? edition' value = some level := by
      refine levelOf?_eq_some hlevel ?_
      rintro rfl
      exact hlevels arg List.mem_cons_self harg
    rw [readFrom.eq_def]
    simp only [hdashes, harg', hlevel', if_false]
    exact ih h fun arg' hmem => hlevels arg' (List.mem_cons_of_mem _ hmem)
  | case8 logLevel surplus arg hdashes harg level rest hlevel ih =>
    -- a level that is an argument of its own
    have harg' : Argument.classify edition' programFlags arg = .option .logLevel none :=
      Argument.classify_eq_of_ne_help harg nofun
    rw [readFrom.eq_def]
    simp only [hdashes, harg', hlevel, if_false, if_true]
    exact ih h fun arg' hmem =>
      hlevels arg' (List.mem_cons_of_mem _ (List.mem_cons_of_mem _ hmem))
  | case12 logLevel surplus arg rest hdashes harg ih =>
    -- an option that does not exist, which is only refused in the end
    have harg' : Argument.classify edition' programFlags arg = .unknown :=
      Argument.classify_eq_of_ne_help harg nofun
    rw [readFrom.eq_def]
    simp only [hdashes, harg', if_false]
    exact ih h fun arg' hmem => hlevels arg' (List.mem_cons_of_mem _ hmem)
  | _ => cases h

/-- **An accepted command line is the same request by all editions**, unless two dashes ask for no level
by the earlier rules. -/
theorem Request.read_eq_of_accepted {r : Request} (h : Request.read edition args = .accepted r)
    (hlevels : ∀ arg ∈ args,
      Argument.classify edition programFlags arg = .option .logLevel (some "--") → edition = .later) :
    Request.read edition' args = .accepted r := by
  unfold Request.read at h ⊢
  split at h
  · cases h
  · next hnone =>
    -- the same arguments may be short for more than one option
    rw [if_neg]
    · exact readFrom_eq_of_accepted h hlevels
    · intro hsome
      apply hnone
      obtain ⟨arg, hmem, harg⟩ := List.any_eq_true.mp hsome
      have harg' : Argument.classify edition programFlags arg = .ambiguous :=
        Argument.classify_eq_of_ne_help (of_decide_eq_true harg) nofun
      exact List.any_eq_true.mpr ⟨arg, hmem, decide_eq_true harg'⟩

/-- The exception: this asks for no level by the earlier rules, and is no level by the later ones. -/
example : Request.read .earlier ["--log-level=--", "dump", "x"] = .accepted ⟨none, .dump "x" false⟩ ∧
    Request.read .later ["--log-level=--", "dump", "x"] = .refused := by decide +kernel

/-- **What the later rules accept ends in the same way by all editions.** -/
theorem runBy_eq_of_later {generic : List String} {declarations : List Declaration} {r : Request}
    (h : Request.read .later args = .accepted r) :
    runBy edition generic declarations args = runBy .later generic declarations args := by
  have hread : Request.read edition args = .accepted r :=
    Request.read_eq_of_accepted h fun _ _ _ => rfl
  rw [runBy, runBy, perform, perform, hread, h]

end IsaNames.CommandLine
