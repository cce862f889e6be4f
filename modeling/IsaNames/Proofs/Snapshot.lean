import IsaNames.Proofs.Draft

/-!
# Closed drafts

The first closing of a draft is the last change of it.  Later writes are refused, whatever they ask
for, and later closings answer with the lexicon that the first one made; so it does not matter whether
the draft or that lexicon is asked.

## Main definitions

* `Lexicon.Question`, `Lexicon.answer` — questions to a lexicon and answers as data.
* `Draft.ClosedAsIs` — the invariant: a closed draft was closed as it is now.
* `Draft.openCalls` — the calls before the first closing.
* `Draft.Settled` — what a closed draft and the lexicon that it was closed as have in common.

## Main results

* `Draft.after_of_isClosed`, `Draft.run_of_isClosed` — a closed draft does not change.
* `Draft.closedAsIs_run` — a draft is closed as what it is, whatever the calls before.
* `Draft.content_run_openCalls` — what is in a draft was there before the first closing.
* `Draft.closing_is_final` — **a closed draft and its lexicon answer alike for good.**
-/

namespace IsaNames.Lexicon

/-! ### Questions -/

/-- A question to a lexicon. -/
inductive Question
  | idOf (name : String)
  | contains (name : String)
  | display (id : Int)
  | hasDisplay (id : Int)
  | aliases (id : Int)
  | names
  | displayed
  | size

/-- What a lexicon answers. -/
inductive Answer
  | id (found : Except Miss Int)
  | yes (holds : Bool)
  | text (phrase : Text.Phrase)
  | names (names : List String)
  | displayed (rows : List (Int × String))
  | size (count : Nat)

/-- The answer to a question. -/
def answer (x : Lexicon) : Question → Answer
  | .idOf name => .id (x.idOf name)
  | .contains name => .yes (x.contains name)
  | .display id => .text (x.display id)
  | .hasDisplay id => .yes (x.hasDisplay id)
  | .aliases id => .names (x.aliases id)
  | .names => .names x.names
  | .displayed => .displayed x.displayed
  | .size => .size x.size

namespace Draft

variable {d d' : Draft}

/-! ### Calls on a closed draft -/

theorem isClosed_close (d : Draft) : d.close.isClosed = true := rfl

/-- A draft that is closed again stays as it is. -/
theorem close_of_isClosed (h : d.isClosed = true) : d.close = d := by
  obtain ⟨content, closedAs⟩ := d
  cases closedAs with
  | none => cases h
  | some x => rfl

/-- Nothing can be done to a closed draft. -/
theorem Step.eq_of_isClosed (hstep : Step d d') (h : d.isClosed = true) : d' = d := by
  cases hstep with
  | same => rfl
  | assigned hassign => simp [(assign_eq_ok_iff.mp hassign).1] at h
  | displayed hdisplay => simp [(setDisplay_eq_ok_iff.mp hdisplay).1] at h
  | closed => exact close_of_isClosed h

/-- **A call leaves a closed draft as it is.** -/
theorem after_of_isClosed (h : d.isClosed = true) (c : Call) : d.after c = d :=
  (step_after d c).eq_of_isClosed h

/-- So do calls in a row. -/
theorem run_of_isClosed (h : d.isClosed = true) (calls : List Call) : d.run calls = d := by
  induction calls with
  | nil => rfl
  | cons c rest ih =>
    show (d.after c).run rest = d
    rw [after_of_isClosed h, ih]

/-- Every write to a closed draft is refused for that reason alone. -/
theorem ends_write_of_isClosed (h : d.isClosed = true) {c : Call} {write : NameWrite}
    (hwrite : c.write? = some write) :
    (perform c).Ends d d (.error (.flaw (d.closedFlaw write))) := by
  have hfault : (d.closedFlaw write).fault = .flaw (d.closedFlaw write) :=
    Flaw.fault_of_numbers_eq_nil rfl
  rw [← hfault]
  exact (Refuses.closed h hwrite).ends

/-- A call that is made after a closing has the outcome that it has on the closed draft. -/
theorem outcome_of_mem_history (h : d.isClosed = true) {calls : List Call}
    {e : Call × Except Fault Reply} (he : e ∈ Action.history perform d calls) :
    (perform e.1 d).2.outcome = e.2 := by
  obtain ⟨earlier, later, -, houtcome⟩ := Action.exists_of_mem_history he
  have hstate : Action.afterAll perform d earlier = d := run_of_isClosed h earlier
  rwa [hstate] at houtcome

/-! ### What a draft is closed as -/

/-- If the draft was closed, it was closed as it is now. -/
def ClosedAsIs (d : Draft) : Prop := ∀ x, d.closedAs = some x → x = d.content

theorem closedAsIs_of_isOpen (h : d.isClosed = false) : d.ClosedAsIs := by
  intro x hx
  simp [isClosed, hx] at h

theorem ClosedAsIs.closed_eq (h : d.ClosedAsIs) : d.closed = d.content := by
  unfold closed
  cases hx : d.closedAs with
  | none => rfl
  | some x => exact h x hx

theorem ClosedAsIs.step (hd : d.ClosedAsIs) (h : Step d d') : d'.ClosedAsIs := by
  cases hclosed : d.isClosed with
  | true =>
    rw [h.eq_of_isClosed hclosed]
    exact hd
  | false =>
    cases h with
    | same => exact hd
    | assigned h => exact closedAsIs_of_isOpen (assign_keeps h).1
    | displayed h =>
      -- the draft is open, and showing a name does not close it
      obtain ⟨-, -, ⟨-, rfl⟩ | ⟨-, rfl⟩⟩ := setDisplay_eq_ok_iff.mp h
      · exact hd
      · exact closedAsIs_of_isOpen hclosed
    | closed =>
      intro x hx
      cases hx
      exact hd.closed_eq

/-- **A draft is closed as what it is**, whatever was called before. -/
theorem closedAsIs_run (hd : d.ClosedAsIs) (calls : List Call) : (d.run calls).ClosedAsIs := by
  induction calls generalizing d with
  | nil => exact hd
  | cons c rest ih => exact ih (hd.step (step_after d c))

/-- The calls before the first closing. -/
def openCalls (calls : List Call) : List Call := calls.takeWhile (· ≠ .close)

/-- What is in a draft was there before the first closing. -/
theorem content_run_openCalls (d : Draft) (calls : List Call) :
    (d.run calls).content = (d.run (openCalls calls)).content := by
  induction calls generalizing d with
  | nil => rfl
  | cons c rest ih =>
    by_cases hc : c = .close
    · -- from the closing on nothing is written
      subst hc
      show (d.close.run rest).content = d.content
      rw [run_of_isClosed (isClosed_close d)]
      rfl
    · have hopen : openCalls (c :: rest) = c :: openCalls rest := by simp [openCalls, hc]
      rw [hopen]
      exact ih (d.after c)

/-! ### Closing -/

/-- The closed draft and the lexicon agree for the given calls: writes are refused, closings answer with
the lexicon, and after them every question has the same answer from both. -/
structure Settled (d : Draft) (x : Lexicon) (calls : List Call) : Prop where
  refused : ∀ c write o, (c, o) ∈ Action.history perform d calls → c.write? = some write →
    o = .error (.flaw (d.closedFlaw write))
  closing : ∀ o, (.close, o) ∈ Action.history perform d calls → o = .ok (.closed x)
  answer_eq : ∀ q, (d.run calls).content.answer q = x.answer q

/-- A draft that is closed as it is agrees with its lexicon, whatever is called. -/
theorem ClosedAsIs.settled (hd : d.ClosedAsIs) (h : d.isClosed = true) (calls : List Call) :
    d.Settled d.closed calls where
  refused := by
    intro c write o ho hwrite
    exact (outcome_of_mem_history h ho).symm.trans (ends_write_of_isClosed h hwrite).2
  closing := by
    intro o ho
    exact (outcome_of_mem_history h ho).symm
  answer_eq := by
    intro q
    rw [run_of_isClosed h, hd.closed_eq]

/-- **A closed draft and its lexicon answer alike for good.**  Whatever was called before, closing
answers with a lexicon; whatever is called later, every write is refused, every closing answers with
the same lexicon, and the draft and the lexicon answer every question as the draft did when it was first
closed. -/
theorem closing_is_final (kind fallback : String) (foldCase : Bool) (owner : Option String)
    (earlier later : List Call) :
    let d := (empty kind fallback foldCase owner).run earlier
    ∃ x, (perform .close).Ends d d.close (.ok (.closed x)) ∧ d.close.Settled x later ∧
      ∀ q, x.answer q =
        ((empty kind fallback foldCase owner).run (openCalls earlier)).content.answer q := by
  intro d
  have hd : d.ClosedAsIs := closedAsIs_run (closedAsIs_of_isOpen rfl) earlier
  have hclosed : d.close.closed = d.closed := rfl
  refine ⟨d.closed, ⟨rfl, rfl⟩, ?_, ?_⟩
  · rw [← hclosed]
    exact (hd.step .closed).settled (isClosed_close d) later
  · intro q
    rw [hd.closed_eq, content_run_openCalls]

end Draft

end IsaNames.Lexicon
