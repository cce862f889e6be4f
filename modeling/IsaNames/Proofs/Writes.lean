import IsaNames.Proofs.Draft

/-!
# What a write does

A write to a draft does what it is asked for, or nothing.  Whether it fails can be told beforehand, from
the names that are there and from what they stand for and show.

## Main definitions

* `Draft.Fails` — a call fails on a draft.
* `Draft.GainsName`, `Draft.GainsDisplay` — at most one row more.
* `Draft.WritesWhole` — when writes fail, what a failed one leaves and what a successful one does.

## Main results

* `Draft.fails_iff` — a call fails exactly if it is refused.
* `Draft.fails_assign_iff`, `Draft.fails_link_iff`, `Draft.fails_setDisplay_iff` — when the writes fail.
* `Draft.writes_whole` — **a write does its job or nothing.**
* `Draft.run_accepted` — **refused calls might as well not have been made.**
-/

namespace IsaNames.Lexicon.Draft

variable {d d' : Draft} {c : Call} {cause : FlawCause}

/-! ### Calls that fail -/

/-- A refused call is not accepted. -/
theorem Refuses.not_accepts (h : d.Refuses c cause) {r : Reply} : ¬d.Accepts c d' r := by
  intro haccepts
  cases (h.ends.unique haccepts.ends).2

/-- The call fails on the draft. -/
def Fails (d : Draft) (c : Call) : Prop := ∃ e, (perform c d).2.outcome = .error e

/-- **A call fails exactly if it is refused.** -/
theorem fails_iff : d.Fails c ↔ ∃ cause, d.Refuses c cause := by
  constructor
  · rintro ⟨e, he⟩
    rcases accepts_or_refuses d c with ⟨d', r, haccepts⟩ | hrefuses
    · rw [haccepts.ends.2] at he
      cases he
    · exact hrefuses
  · rintro ⟨cause, h⟩
    exact ⟨_, h.ends.2⟩

/-- A call fails exactly if it is not accepted. -/
theorem fails_iff_not_accepts : d.Fails c ↔ ¬∃ d' r, d.Accepts c d' r := by
  rw [fails_iff]
  constructor
  · rintro ⟨cause, h⟩ ⟨d', r, haccepts⟩
    exact h.not_accepts haccepts
  · exact (accepts_or_refuses d c).resolve_left

theorem fails_assign_iff {name : String} {id : Int} : d.Fails (.assign name id) ↔
    d.isClosed = true ∨ d.content.key name = "" ∨
      ∃ old, d.content.idOf? name = some old ∧ old ≠ id := by
  rw [fails_iff]
  constructor
  · rintro ⟨cause, h⟩
    cases h with
    | closed hclosed => exact .inl hclosed
    | blank _ hkey => exact .inr (.inl hkey)
    | bound _ _ hold hne => exact .inr (.inr ⟨_, hold, hne⟩)
  · intro h
    rcases assign_ok_or_refuses d name id with ⟨d', hassign⟩ | hrefuses
    · -- an accepted name meets none of the three conditions
      obtain ⟨hopen, hkey, hcases⟩ := assign_eq_ok_iff.mp hassign
      rcases h with hclosed | hempty | ⟨old, hold, hne⟩
      · rw [hopen] at hclosed
        cases hclosed
      · exact absurd hempty hkey
      · rcases hcases with ⟨hsame, -⟩ | ⟨hnone, -⟩
        · rw [hold, Option.some.injEq] at hsame
          exact absurd hsame hne
        · rw [hold] at hnone
          cases hnone
    · exact hrefuses

theorem fails_link_iff {name target : String} : d.Fails (.link name target) ↔
    d.isClosed = true ∨ d.content.idOf? target = none ∨ d.content.key name = "" ∨
      ∃ id old, d.content.idOf? target = some id ∧ d.content.idOf? name = some old ∧ old ≠ id := by
  cases htarget : d.content.idOf? target with
  | none =>
    have hfails : ¬∃ d' r, d.Accepts (.link name target) d' r := by
      rintro ⟨d', r, haccepts⟩
      cases haccepts with
      | link h =>
        rw [(link_eq_ok_iff.mp h).1] at htarget
        cases htarget
    exact iff_of_true (fails_iff_not_accepts.mpr hfails) (.inr (.inl rfl))
  | some id =>
    -- the alias is accepted as a name of this ID, or not at all
    have hlink : d.Fails (.link name target) ↔ d.Fails (.assign name id) := by
      rw [fails_iff_not_accepts, fails_iff_not_accepts, not_iff_not]
      constructor
      · rintro ⟨d', r, haccepts⟩
        cases haccepts with
        | link h =>
          obtain ⟨hid, hassign⟩ := link_eq_ok_iff.mp h
          rw [htarget, Option.some.injEq] at hid
          rw [← hid] at hassign
          exact ⟨d', .done, .assign hassign⟩
      · rintro ⟨d', r, haccepts⟩
        cases haccepts with
        | assign h => exact ⟨d', .id id, .link (link_eq_ok_iff.mpr ⟨htarget, h⟩)⟩
    rw [hlink, fails_assign_iff]
    simp only [reduceCtorEq, false_or, Option.some.injEq, exists_and_left, exists_eq_left']

theorem fails_setDisplay_iff {id : Int} {name : String} : d.Fails (.setDisplay id name) ↔
    d.isClosed = true ∨ d.content.idOf? name ≠ some id ∨
      ∃ old, d.content.display? id = some old ∧ d.content.key old ≠ d.content.key name := by
  rw [fails_iff]
  constructor
  · rintro ⟨cause, h⟩
    cases h with
    | closed hclosed => exact .inl hclosed
    | stray _ hid => exact .inr (.inl hid)
    | taken _ _ hold hne => exact .inr (.inr ⟨_, hold, hne⟩)
  · intro h
    rcases setDisplay_ok_or_refuses d id name with ⟨d', hdisplay⟩ | hrefuses
    · obtain ⟨hopen, hid, hcases⟩ := setDisplay_eq_ok_iff.mp hdisplay
      rcases h with hclosed | hstray | ⟨old, hold, hne⟩
      · rw [hopen] at hclosed
        cases hclosed
      · exact absurd hid hstray
      · rcases hcases with ⟨⟨shown, hshown, hkey⟩, -⟩ | ⟨hnone, -⟩
        · rw [hold, Option.some.injEq] at hshown
          rw [← hshown] at hkey
          exact absurd hkey hne
        · rw [hold] at hnone
          cases hnone
    · exact hrefuses

/-! ### Calls that succeed -/

/-- The draft is as before, or it has one name more, at the end, under the key of the name asked
for. -/
def GainsName (d d' : Draft) (name : String) (id : Int) : Prop :=
  d' = d ∨ d.content.key name ∉ d.content.names ∧ d' = d.addEntries [(d.content.key name, id)]

/-- The draft is as before, or one ID more is shown, by the name asked for without its surrounding
blanks. -/
def GainsDisplay (d d' : Draft) (id : Int) (name : String) : Prop :=
  d' = d ∨ d.content.hasDisplay id = false ∧ d' = d.addDisplays [(id, Text.stripped name)]

theorem gainsName_of_assign {name : String} {id : Int} (h : d.assign name id = .ok d') :
    d.GainsName d' name id := by
  obtain ⟨-, -, ⟨-, hsame⟩ | ⟨hnone, hrow⟩⟩ := assign_eq_ok_iff.mp h
  · exact .inl hsame
  · exact .inr ⟨idOf?_eq_none_iff.mp hnone, hrow⟩

theorem gainsDisplay_of_setDisplay {id : Int} {name : String} (h : d.setDisplay id name = .ok d') :
    d.GainsDisplay d' id name := by
  obtain ⟨-, -, ⟨-, hsame⟩ | ⟨hnone, hrow⟩⟩ := setDisplay_eq_ok_iff.mp h
  · exact .inl hsame
  · refine .inr ⟨?_, hrow⟩
    rw [hasDisplay, hnone]
    rfl

/-! ### Writes as a whole -/

/-- Every write to the draft does its job or nothing. -/
structure WritesWhole (d : Draft) : Prop where
  /-- A name fails if the draft is closed, or it is blank, or its key stands for another ID. -/
  fails_assign : ∀ name id, d.Fails (.assign name id) ↔
    d.isClosed = true ∨ d.content.key name = "" ∨
      ∃ old, d.content.idOf? name = some old ∧ old ≠ id
  /-- So does an alias for the ID that it is for, and also if it is for nothing. -/
  fails_link : ∀ name target, d.Fails (.link name target) ↔
    d.isClosed = true ∨ d.content.idOf? target = none ∨ d.content.key name = "" ∨
      ∃ id old, d.content.idOf? target = some id ∧ d.content.idOf? name = some old ∧ old ≠ id
  /-- A name to be shown fails if the draft is closed, or it does not stand for the ID, or the ID is
  shown by a name with another key. -/
  fails_setDisplay : ∀ id name, d.Fails (.setDisplay id name) ↔
    d.isClosed = true ∨ d.content.idOf? name ≠ some id ∨
      ∃ old, d.content.display? id = some old ∧ d.content.key old ≠ d.content.key name
  /-- A call that fails does so for a reason to refuse it, and changes nothing. -/
  of_error : ∀ c e, (perform c d).2.outcome = .error e →
    d.after c = d ∧ ∃ cause, d.Refuses c cause ∧ e = (d.flaw cause).fault
  /-- A name that is accepted stands for its ID. -/
  of_assign : ∀ name id r, (perform (.assign name id) d).2.outcome = .ok r →
    (d.after (.assign name id)).content.idOf? name = some id ∧
      d.GainsName (d.after (.assign name id)) name id
  /-- An alias that is accepted stands for the ID that it is for, and this ID is the answer. -/
  of_link : ∀ name target r, (perform (.link name target) d).2.outcome = .ok r →
    ∃ id, r = .id id ∧ d.content.idOf? target = some id ∧
      (d.after (.link name target)).content.idOf? name = some id ∧
      d.GainsName (d.after (.link name target)) name id
  /-- An ID that a name is accepted for is shown by a name with its key, and in its own spelling if it
  was not shown before. -/
  of_setDisplay : ∀ id name r, (perform (.setDisplay id name) d).2.outcome = .ok r →
    (∃ shown, (d.after (.setDisplay id name)).content.display? id = some shown ∧
      d.content.key shown = d.content.key name) ∧
      d.GainsDisplay (d.after (.setDisplay id name)) id name

/-- **A write does its job or nothing.**  When it fails is told by the draft alone; a write that fails
changes nothing, and one that succeeds adds at most one row, at the end of one table, after which what
was asked for holds. -/
theorem writes_whole (d : Draft) : d.WritesWhole where
  fails_assign := fun _ _ => fails_assign_iff
  fails_link := fun _ _ => fails_link_iff
  fails_setDisplay := fun _ _ => fails_setDisplay_iff
  of_error := by
    intro c e he
    obtain ⟨cause, h⟩ := fails_iff.mp ⟨e, he⟩
    have hends := h.ends
    rw [hends.2, Except.error.injEq] at he
    exact ⟨hends.1, cause, h, he.symm⟩
  of_assign := by
    intro name id r hr
    cases ends_perform_ok_iff.mp ⟨rfl, hr⟩ with
    | assign h => exact ⟨idOf?_of_assign h, gainsName_of_assign h⟩
  of_link := by
    intro name target r hr
    cases ends_perform_ok_iff.mp ⟨rfl, hr⟩ with
    | link h =>
      obtain ⟨htarget, hassign⟩ := link_eq_ok_iff.mp h
      exact ⟨_, rfl, htarget, idOf?_of_assign hassign, gainsName_of_assign hassign⟩
  of_setDisplay := by
    intro id name r hr
    cases ends_perform_ok_iff.mp ⟨rfl, hr⟩ with
    | setDisplay h => exact ⟨display?_of_setDisplay h, gainsDisplay_of_setDisplay h⟩

/-- A name that stands for the largest ID that can be written, in another spelling, and for the next ID:
the write fails, but what is wrong with it cannot be written. -/
theorem reassignment_unwritable :
    let id : Int := Text.leastTooLong - 1
    let d := (empty Miss.register registerFallback true none).run [.assign "r0" id]
    d.content.idOf? "R0" = some id ∧ id ≠ id + 1 ∧
      (perform (.assign "R0" (id + 1)) d).2.outcome = .error .numberTooLong := by
  intro id d
  have hkey : Text.key true "R0" = Text.key true "r0" := by decide +kernel
  have hassign : (empty Miss.register registerFallback true none).assign "r0" id =
      .ok ((empty Miss.register registerFallback true none).addEntries [("r0", id)]) :=
    assign_eq_ok_iff.mpr ⟨rfl, by decide +kernel, .inr ⟨rfl, by decide +kernel⟩⟩
  have hd : d = (empty Miss.register registerFallback true none).addEntries [("r0", id)] :=
    (Accepts.assign hassign).ends.1
  have hid : d.content.idOf? "R0" = some id := by
    rw [hd, idOf?]
    show [("r0", id)].lookup (Text.key true "R0") = some id
    rw [hkey]
    exact idOf?_of_assign hassign
  have hrefuses : d.Refuses (.assign "R0" (id + 1)) (.reassigned (d.content.key "R0") id (id + 1)) := by
    refine .bound ?_ ?_ hid (by omega)
    · rw [hd]
      rfl
    · rw [hd]
      show Text.key true "R0" ≠ ""
      decide +kernel
  refine ⟨hid, by omega, ?_⟩
  rw [hrefuses.ends.2, Flaw.fault]
  have hlong : Text.isWritable (id + 1) = false := by
    rw [Text.isWritable_eq_false_iff]
    omega
  simp [flaw, FlawCause.isWritable_phrase, FlawCause.numbers, hlong]

/-! ### Runs -/

/-- **Refused calls might as well not have been made**: a run leaves what its accepted calls alone
leave. -/
theorem run_accepted (d : Draft) (calls : List Call) :
    d.run (((Action.history perform d calls).filter fun e => e.2.isOk).map (·.1)) = d.run calls := by
  induction calls generalizing d with
  | nil => rfl
  | cons c rest ih =>
    have hrun : d.run (c :: rest) = (d.after c).run rest := rfl
    rw [hrun, ← ih, Action.history_cons]
    rcases accepts_or_refuses d c with ⟨d', r, haccepts⟩ | ⟨cause, h⟩
    · have hok : (perform c d).2.outcome.isOk = true := by
        rw [haccepts.ends.2]
        rfl
      simp only [List.filter_cons, hok, if_true, List.map_cons]
      rfl
    · -- the refused call leaves the draft that the rest runs on
      have hrefused : (perform c d).2.outcome.isOk = false := by
        rw [h.ends.2]
        rfl
      have hafter : (perform c d).1 = d := h.ends.1
      simp only [List.filter_cons, hrefused, Bool.false_eq_true, if_false, after, hafter]

end IsaNames.Lexicon.Draft
