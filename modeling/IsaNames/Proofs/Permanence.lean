import IsaNames.Proofs.Draft
import IsaNames.Proofs.Growth

/-!
# What is written stays

A call on a draft only ever adds a row at the end of one of its two tables.  So names keep their IDs
and their places, and IDs keep the names they are shown by, whatever is called later.  For the same
reason a call that was accepted once finds all that it asks for already there: made again on a draft
that is still open, it is accepted, answers as before and writes nothing.

## Main definitions

* `Draft.Grows d e` — `e` is `d` with more rows at the ends of its tables, and closed if `d` is.
* `Lexicon.StaysIn x y` — what `x` tells, `y` tells too, and the names of `x` are its first ones.

## Main results

* `Draft.Step.grows`, `Draft.grows_run` — **calls only add rows.**
* `Draft.Accepts.again` — **a call that was accepted is accepted again and writes nothing.**
* `Draft.bindings_permanent` — both, for whole runs.
-/

namespace IsaNames.Lexicon

/-- What a lexicon tells stays in another one, and so do the places of its names. -/
structure StaysIn (x y : Lexicon) : Prop extends x.KeptIn y where
  names : x.names <+: y.names

namespace Draft

variable {d d' e : Draft}

/-! ### Drafts that grow -/

/-- The rows of a draft are the first ones of another draft with the same keys, and it is not open if
the other one is closed. -/
structure Grows (d e : Draft) : Prop where
  key_eq : e.content.key = d.content.key
  entries : d.content.entries <+: e.content.entries
  displays : d.content.displays <+: e.content.displays
  isOpen : e.isClosed = false → d.isClosed = false

namespace Grows

theorem refl (d : Draft) : d.Grows d :=
  ⟨rfl, List.prefix_refl _, List.prefix_refl _, id⟩

theorem trans (h : d.Grows d') (h' : d'.Grows e) : d.Grows e where
  key_eq := h'.key_eq.trans h.key_eq
  entries := h.entries.trans h'.entries
  displays := h.displays.trans h'.displays
  isOpen := fun he => h.isOpen (h'.isOpen he)

theorem idOf? (h : d.Grows e) {name : String} {id : Int} (hid : d.content.idOf? name = some id) :
    e.content.idOf? name = some id := by
  rw [Lexicon.idOf?, h.key_eq]
  exact h.entries.lookup_eq_some hid

theorem display? (h : d.Grows e) {id : Int} {name : String}
    (hname : d.content.display? id = some name) : e.content.display? id = some name :=
  h.displays.lookup_eq_some hname

theorem hasDisplay (h : d.Grows e) {id : Int} (hid : d.content.hasDisplay id = true) :
    e.content.hasDisplay id = true := by
  obtain ⟨name, hname⟩ := Option.isSome_iff_exists.mp hid
  rw [Lexicon.hasDisplay, h.display? hname]
  rfl

theorem staysIn (h : d.Grows e) : d.content.StaysIn e.content where
  idOf := fun _ _ hid => idOf_eq_ok_iff.mpr (h.idOf? (idOf_eq_ok_iff.mp hid))
  display := by
    intro id hid
    obtain ⟨name, hname⟩ := Option.isSome_iff_exists.mp hid
    refine ⟨h.hasDisplay hid, ?_⟩
    rw [display, display, hname, h.display? hname]
  names := h.entries.map _

end Grows

/-- **A call only adds rows.** -/
theorem Step.grows (h : Step d e) : d.Grows e := by
  cases h with
  | same => exact .refl _
  | assigned h =>
    obtain ⟨-, -, ⟨-, rfl⟩ | ⟨-, rfl⟩⟩ := assign_eq_ok_iff.mp h
    · exact .refl _
    · exact ⟨rfl, List.prefix_append _ _, List.prefix_refl _, id⟩
  | displayed h =>
    obtain ⟨-, -, ⟨-, rfl⟩ | ⟨-, rfl⟩⟩ := setDisplay_eq_ok_iff.mp h
    · exact .refl _
    · exact ⟨rfl, List.prefix_refl _, List.prefix_append _ _, id⟩
  | closed => exact ⟨rfl, List.prefix_refl _, List.prefix_refl _, fun h => nomatch h⟩

/-- Calls in a row only add rows. -/
theorem grows_run (d : Draft) (calls : List Call) : d.Grows (d.run calls) := by
  induction calls generalizing d with
  | nil => exact .refl d
  | cons c rest ih => exact (step_after d c).grows.trans (ih (d.after c))

/-! ### Calls made again -/

/-- A name that stands for an ID is accepted for it again. -/
theorem assign_again {name : String} {id : Int} (h : d.assign name id = .ok d') (hgrows : d'.Grows e)
    (hopen : e.isClosed = false) : e.assign name id = .ok e := by
  have hkey := (assign_eq_ok_iff.mp h).2.1
  rw [← ((Step.assigned h).grows.trans hgrows).key_eq] at hkey
  exact assign_eq_ok_iff.mpr ⟨hopen, hkey, .inl ⟨hgrows.idOf? (idOf?_of_assign h), rfl⟩⟩

/-- A name that an ID is shown by, in whatever spelling, is accepted for it again. -/
theorem setDisplay_again {name : String} {id : Int} (h : d.setDisplay id name = .ok d')
    (hgrows : d'.Grows e) (hopen : e.isClosed = false) : e.setDisplay id name = .ok e := by
  have hall := (Step.displayed h).grows.trans hgrows
  obtain ⟨shown, hshown, hkey⟩ := display?_of_setDisplay h
  rw [← hall.key_eq] at hkey
  exact setDisplay_eq_ok_iff.mpr ⟨hopen, hall.idOf? (setDisplay_eq_ok_iff.mp h).2.1,
    .inl ⟨⟨shown, hgrows.display? hshown, hkey⟩, rfl⟩⟩

/-- **A call that was accepted is accepted again**, with the same answer, as long as the draft is
open, and nothing is written. -/
theorem Accepts.again {c : Call} {r : Reply} (h : d.Accepts c d' r) (hgrows : d'.Grows e)
    (hopen : e.isClosed = false) : e.Accepts c e r := by
  cases h with
  | assign h => exact .assign (assign_again h hgrows hopen)
  | link h =>
    obtain ⟨htarget, hassign⟩ := link_eq_ok_iff.mp h
    have hall := (Step.assigned hassign).grows.trans hgrows
    exact .link (link_eq_ok_iff.mpr ⟨hall.idOf? htarget, assign_again hassign hgrows hopen⟩)
  | setDisplay h => exact .setDisplay (setDisplay_again h hgrows hopen)
  | validate h =>
    rw [requireDisplays_eq_ok_iff] at h
    exact .validate (requireDisplays_eq_ok_iff.mpr fun id hid => hgrows.hasDisplay (h id hid))
  | close => cases hgrows.isOpen hopen

/-- A call that succeeded in its turn succeeds again at the end of the run. -/
theorem ends_perform_again {calls : List Call} {c : Call} {r : Reply}
    (h : (c, .ok r) ∈ Action.history perform d calls) (hopen : (d.run calls).isClosed = false) :
    (perform c).Ends (d.run calls) (d.run calls) (.ok r) := by
  obtain ⟨earlier, later, rfl, houtcome⟩ := Action.exists_of_mem_history h
  have haccepts := ends_perform_ok_iff.mp ⟨rfl, houtcome⟩
  have hgrows := grows_run (perform c (Action.afterAll perform d earlier)).1 later
  have hrun : d.run (earlier ++ c :: later) =
      (perform c (Action.afterAll perform d earlier)).1.run later :=
    Action.afterAll_append perform d earlier (c :: later)
  rw [hrun] at hopen ⊢
  exact (haccepts.again hgrows hopen).ends

/-- **What is written stays, and what was accepted may be called again.**  Whatever is called later,
names keep their IDs and their places, and IDs keep the names they are shown by.  On a draft that is
still open any of the calls that succeeded may be made again, in any order and any number of times:
they succeed with the same answers, and the draft does not change. -/
theorem bindings_permanent {calls : List Call} (hopen : (d.run calls).isClosed = false) :
    (∀ later, (d.run calls).content.StaysIn ((d.run calls).run later).content) ∧
    ∀ again : List (Call × Reply),
      (∀ e ∈ again, (e.1, .ok e.2) ∈ Action.history perform d calls) →
      (d.run calls).run (again.map (·.1)) = d.run calls ∧
        Action.history perform (d.run calls) (again.map (·.1)) =
          again.map fun e => (e.1, .ok e.2) :=
  ⟨fun later => (grows_run _ later).staysIn, fun _ hagain =>
    Action.history_of_ends_self fun e he => ends_perform_again (hagain e he) hopen⟩

/-- Calls that link a name to a linked one and show an ID by two spellings of its name, with a refused
call among them. -/
def chained : List Call :=
  [.assign "r0" 0, .link "Zero" "R0 ", .link "nil" "zero", .setDisplay 0 " ZERO", .assign "nil" 1,
    .setDisplay 0 "zero"]

theorem bindings_permanent_of_chained :
    let d := (empty "registro" "R???" true none).run chained
    let again : List Call := [.setDisplay 0 "zero", .link "nil" "zero", .assign "r0" 0]
    d.isClosed = false ∧ d.content.StaysIn (d.run [.assign "r1" 1, .close]).content ∧
      d.run again = d ∧ (Action.history perform d again).map (·.2) =
        [.ok .done, .ok (.id 0), .ok .done] := by
  intro d again
  have hopen : d.isClosed = false := by decide +kernel
  obtain ⟨hlater, hagain⟩ := bindings_permanent hopen
  obtain ⟨hstate, hhistory⟩ := hagain
    [(.setDisplay 0 "zero", .done), (.link "nil" "zero", .id 0), (.assign "r0" 0, .done)]
    (by decide +kernel)
  exact ⟨hopen, hlater _, hstate, congrArg (List.map (·.2)) hhistory⟩

end Draft

end IsaNames.Lexicon
