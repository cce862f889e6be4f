import IsaNames.Traced

/-!
# How computations end

A computation of the library is judged by the state it ends in and by its outcome; the records it
wrote do not decide how it goes on.  Here the log is left aside, and sequences of steps are taken
apart into their steps.

## Main definitions

* `Flaw.fault` — what a flaw ends a computation with.
* `Action.Ends x s s' o` — from the state `s` the action `x` ends in `s'` with the outcome `o`.
* `Action.Guarded x p s t` — the action `x` leads from `s` to `t` if `p` holds, and else is refused.
* `Action.afterAll`, `Action.history` — what calls in a row lead to, and how each of them ends.

## Main results

* `Except.bind_eq_ok_iff`, `Except.bind_eq_error_iff` — how a sequence of two checks can end.
* `Traced.outcome_bind` — the outcome of a sequence is the sequence of the outcomes.
* `Action.ends_bind_iff` — how a sequence of two actions ends.
* `Action.ends_within_iff` — how an action with a state of its own ends.
-/

namespace Except

variable {ε ε' α β : Type}

/-- Two checks in a row succeed exactly when both do. -/
theorem bind_eq_ok_iff {x : Except ε α} {f : α → Except ε β} {b : β} :
    x >>= f = .ok b ↔ ∃ a, x = .ok a ∧ f a = .ok b := by
  cases x <;> simp [bind, Except.bind]

/-- Two checks in a row fail when the first one does, or when it succeeds and the second one does
not. -/
theorem bind_eq_error_iff {x : Except ε α} {f : α → Except ε β} {e : ε} :
    x >>= f = .error e ↔ x = .error e ∨ ∃ a, x = .ok a ∧ f a = .error e := by
  cases x <;> simp [bind, Except.bind]

theorem map_eq_ok_iff {x : Except ε α} {f : α → β} {b : β} :
    x.map f = .ok b ↔ ∃ a, x = .ok a ∧ f a = b := by
  cases x <;> simp [Except.map]

theorem mapError_eq_ok_iff {x : Except ε α} {f : ε → ε'} {a : α} :
    x.mapError f = .ok a ↔ x = .ok a := by
  cases x with
  | error e =>
    constructor
    · intro h
      cases h
    · intro h
      cases h
  | ok b =>
    constructor
    · intro h
      cases h
      rfl
    · intro h
      cases h
      rfl

theorem mapError_eq_error_iff {x : Except ε α} {f : ε → ε'} {e' : ε'} :
    x.mapError f = .error e' ↔ ∃ e, x = .error e ∧ f e = e' := by
  cases x with
  | error e =>
    constructor
    · intro h
      cases h
      exact ⟨e, rfl, rfl⟩
    · rintro ⟨_, ⟨⟩, rfl⟩
      rfl
  | ok b =>
    constructor
    · intro h
      cases h
    · rintro ⟨_, ⟨⟩, -⟩

end Except

namespace IsaNames

/-- An integer cannot be written if it has more digits than the limit. -/
theorem Text.isWritable_eq_false_iff {n : Int} :
    Text.isWritable n = false ↔ Text.leastTooLong ≤ n.natAbs := by
  rw [Text.isWritable, decide_eq_false_iff_not, Nat.not_lt]

/-- Numbers that are too long are not small. -/
theorem Text.one_lt_leastTooLong : 1 < leastTooLong := by
  -- for any exponent, so that the power is not evaluated
  have hpow : ∀ n : Nat, n ≠ 0 → 1 < Nat.pow 10 n := fun n hn => Nat.one_lt_pow hn (by decide)
  unfold leastTooLong
  exact hpow _ (Nat.succ_ne_zero _)

/-- What a flaw ends a computation with: itself, or, if what it says cannot be written, the fault
that it cannot. -/
def Flaw.fault (f : Flaw) : Fault := if f.cause.phrase.isWritable then .flaw f else .numberTooLong

/-! ### Traced computations -/

namespace Traced

variable {α β : Type}

@[simp] theorem outcome_pure (a : α) : (pure a : Traced α).outcome = .ok a := rfl

@[simp] theorem outcome_note (r : Log.Record) : (note r).outcome = .ok () := rfl

/-- The outcome of a sequence is the sequence of the outcomes. -/
@[simp] theorem outcome_bind (x : Traced α) (f : α → Traced β) :
    (x >>= f).outcome = x.outcome >>= fun a => (f a).outcome := by
  rcases x with ⟨log, _ | a⟩ <;> rfl

@[simp] theorem outcome_raise (f : Flaw) : (raise f : Traced α).outcome = .error f.fault := by
  unfold raise Flaw.fault
  split <;> rfl

@[simp] theorem outcome_flawed (x : Except Flaw α) :
    (flawed x).outcome = x.mapError Flaw.fault := by
  cases x with
  | ok a => rfl
  | error f => exact outcome_raise f

@[simp] theorem outcome_ranged (x : Except BadRange α) :
    (ranged x).outcome = x.mapError Fault.badRange := by
  cases x <;> rfl

end Traced

/-! ### Actions -/

namespace Action

variable {σ τ α β : Type}

/-- From the state `s` the action `x` ends in the state `s'` with the outcome `o`. -/
def Ends (x : Action σ α) (s s' : σ) (o : Except Fault α) : Prop :=
  (x s).1 = s' ∧ (x s).2.outcome = o

/-- Every action ends from every state. -/
theorem ends_self (x : Action σ α) (s : σ) : x.Ends s (x s).1 (x s).2.outcome := ⟨rfl, rfl⟩

/-- An action ends in one way only. -/
theorem Ends.unique {x : Action σ α} {s s₁ s₂ : σ} {o₁ o₂ : Except Fault α}
    (h₁ : x.Ends s s₁ o₁) (h₂ : x.Ends s s₂ o₂) : s₁ = s₂ ∧ o₁ = o₂ :=
  ⟨h₁.1.symm.trans h₂.1, h₁.2.symm.trans h₂.2⟩

theorem Ends.eq {x : Action σ α} {s s' : σ} {o : Except Fault α} (h : x.Ends s s' o) :
    x s = (s', ⟨(x s).2.log, o⟩) := by
  rw [← h.1, ← h.2]

/-! #### Sequences -/

theorem ends_pure (a : α) (s : σ) : (pure a : Action σ α).Ends s s (.ok a) := ⟨rfl, rfl⟩

/-- After a step that succeeds the sequence ends as the rest does. -/
theorem Ends.bind {x : Action σ α} {f : α → Action σ β} {s s' s'' : σ} {a : α}
    {o : Except Fault β} (hx : x.Ends s s' (.ok a)) (hf : (f a).Ends s' s'' o) :
    (x >>= f).Ends s s'' o := by
  rw [Ends, bind_of_ok hx.eq]
  exact hf

/-- A step that fails ends the sequence. -/
theorem Ends.bind_error {x : Action σ α} {f : α → Action σ β} {s s' : σ} {e : Fault}
    (hx : x.Ends s s' (.error e)) : (x >>= f).Ends s s' (.error e) := by
  rw [Ends, bind_of_error hx.eq]
  exact ⟨rfl, rfl⟩

/-- What is made of the result of a step leaves the state as the step left it. -/
theorem Ends.bind_pure {x : Action σ α} {s s' : σ} {o : Except Fault α} (hx : x.Ends s s' o)
    (f : α → β) : (x >>= fun a => pure (f a)).Ends s s' (o.map f) := by
  cases o with
  | error e => exact hx.bind_error
  | ok a => exact hx.bind (ends_pure (f a) s')

/-- A sequence ends as its first step does if that one fails, and else as the rest does. -/
theorem ends_bind_iff {x : Action σ α} {f : α → Action σ β} {s s'' : σ} {o : Except Fault β} :
    (x >>= f).Ends s s'' o ↔ (∃ e, x.Ends s s'' (.error e) ∧ o = .error e) ∨
      ∃ a s', x.Ends s s' (.ok a) ∧ (f a).Ends s' s'' o := by
  constructor
  · intro h
    rcases ho : (x s).2.outcome with e | a
    · have hx : x.Ends s (x s).1 (.error e) := ⟨rfl, ho⟩
      obtain ⟨rfl, rfl⟩ := h.unique hx.bind_error
      exact .inl ⟨e, hx, rfl⟩
    · have hx : x.Ends s (x s).1 (.ok a) := ⟨rfl, ho⟩
      obtain ⟨rfl, rfl⟩ := h.unique (hx.bind (ends_self (f a) (x s).1))
      exact .inr ⟨a, (x s).1, hx, ends_self _ _⟩
  · rintro (⟨e, hx, rfl⟩ | ⟨a, s', hx, hf⟩)
    · exact hx.bind_error
    · exact hx.bind hf

/-- A sequence succeeds exactly when its steps succeed one after the other. -/
theorem ends_bind_ok_iff {x : Action σ α} {f : α → Action σ β} {s s'' : σ} {b : β} :
    (x >>= f).Ends s s'' (.ok b) ↔
      ∃ a s', x.Ends s s' (.ok a) ∧ (f a).Ends s' s'' (.ok b) := by
  simp [ends_bind_iff]

/-- A sequence fails when its first step does, or when that one succeeds and the rest does not. -/
theorem ends_bind_error_iff {x : Action σ α} {f : α → Action σ β} {s s'' : σ} {e : Fault} :
    (x >>= f).Ends s s'' (.error e) ↔ x.Ends s s'' (.error e) ∨
      ∃ a s', x.Ends s s' (.ok a) ∧ (f a).Ends s' s'' (.error e) := by
  simp [ends_bind_iff]

/-! #### Single steps -/

theorem ends_lift (x : Traced α) (s : σ) : (lift x).Ends s s x.outcome := ⟨rfl, rfl⟩

theorem ends_read (s : σ) : (read : Action σ σ).Ends s s (.ok s) := ⟨rfl, rfl⟩

theorem ends_update (f : σ → σ) (s : σ) : (update f).Ends s (f s) (.ok ()) := ⟨rfl, rfl⟩

/-- A replacement that succeeds is the new state. -/
theorem ends_replace_ok {f : σ → Traced σ} {s s' : σ} (h : (f s).outcome = .ok s') :
    (replace f).Ends s s' (.ok ()) := by
  rcases hf : f s with ⟨log, o⟩
  rw [hf] at h
  subst h
  simp [Ends, replace, hf]

/-- A replacement that fails leaves the state as it was. -/
theorem ends_replace_error {f : σ → Traced σ} {s : σ} {e : Fault}
    (h : (f s).outcome = .error e) : (replace f).Ends s s (.error e) := by
  rcases hf : f s with ⟨log, o⟩
  rw [hf] at h
  subst h
  simp [Ends, replace, hf]

/-- The state that an action ends in is the result of the computation made of it. -/
theorem outcome_final_eq_ok_iff {x : Action σ Unit} {s s' : σ} :
    (final x s).outcome = .ok s' ↔ x.Ends s s' (.ok ()) := by
  unfold final Ends
  rcases x s with ⟨t, log, _ | _⟩ <;> simp

/-! #### Guarded actions -/

/-- From the state `s` the action either is done as a whole, which leaves `t`, or is refused as a
whole, and it is done exactly if `p` holds. -/
def Guarded (x : Action σ Unit) (p : Prop) (s t : σ) : Prop :=
  (p ∧ x.Ends s t (.ok ())) ∨ (¬p ∧ ∃ e, x.Ends s s (.error e))

/-- When a guarded action succeeds, and what it leaves then. -/
theorem Guarded.ends_ok_iff {x : Action σ Unit} {p : Prop} {s t s' : σ} (hx : x.Guarded p s t) :
    x.Ends s s' (.ok ()) ↔ p ∧ s' = t := by
  rcases hx with ⟨hp, hends⟩ | ⟨hp, e, hends⟩
  · constructor
    · intro h
      exact ⟨hp, (h.unique hends).1⟩
    · rintro ⟨-, rfl⟩
      exact hends
  · constructor
    · intro h
      cases (h.unique hends).2
    · rintro ⟨hp', -⟩
      exact absurd hp' hp

theorem Guarded.outcome_eq_ok_iff {x : Action σ Unit} {p : Prop} {s t : σ}
    (hx : x.Guarded p s t) : (x s).2.outcome = .ok () ↔ p := by
  rcases hx with ⟨hp, hends⟩ | ⟨hp, e, hends⟩
  · simp [hends.2, hp]
  · simp [hends.2, hp]

/-- When a guarded action is refused. -/
theorem Guarded.exists_ends_error_iff {x : Action σ Unit} {p : Prop} {s t : σ}
    (hx : x.Guarded p s t) : (∃ e, x.Ends s s (.error e)) ↔ ¬p := by
  rcases hx with ⟨hp, hends⟩ | ⟨hp, e, hends⟩
  · refine iff_of_false ?_ (not_not_intro hp)
    rintro ⟨e, h⟩
    cases (h.unique hends).2
  · exact iff_of_true ⟨e, hends⟩ hp

/-- A guarded action leaves one of two states. -/
theorem Guarded.final_cases {x : Action σ Unit} {p : Prop} {s t : σ} (hx : x.Guarded p s t) :
    p ∧ (x s).1 = t ∨ (x s).1 = s := by
  rcases hx with ⟨hp, hends⟩ | ⟨-, e, hends⟩
  · exact Or.inl ⟨hp, hends.1⟩
  · exact Or.inr hends.1

/-! #### Actions on one of two states -/

theorem Ends.onFirst {x : Action σ α} {s s' : σ} {t : τ} {o : Except Fault α}
    (h : x.Ends s s' o) : (onFirst x).Ends (s, t) (s', t) o := by
  refine ⟨?_, h.2⟩
  rw [← h.1]
  rfl

theorem Ends.onSecond {x : Action τ α} {s : σ} {t t' : τ} {o : Except Fault α}
    (h : x.Ends t t' o) : (onSecond x).Ends (s, t) (s, t') o := by
  refine ⟨?_, h.2⟩
  rw [← h.1]
  rfl

/-- What is done on the second of two states leaves the first one alone. -/
theorem ends_onSecond_iff {x : Action τ α} {s s' : σ} {t t' : τ} {o : Except Fault α} :
    (onSecond x).Ends (s, t) (s', t') o ↔ s' = s ∧ x.Ends t t' o := by
  unfold Ends onSecond
  rw [Prod.mk.injEq, and_assoc]
  exact and_congr_left fun _ => eq_comm

/-- An action with a second state fails if that state cannot be made, and else ends as it does with
it. -/
theorem ends_within_iff {start : Traced τ} {x : Action (σ × τ) α} {s s' : σ} {o : Except Fault α} :
    (within start x).Ends s s' o ↔ (∃ e, start.outcome = .error e ∧ s' = s ∧ o = .error e) ∨
      ∃ t t', start.outcome = .ok t ∧ x.Ends (s, t) (s', t') o := by
  rcases start with ⟨log, e | t⟩
  · simp only [Ends, within, Except.error.injEq, exists_eq_left', reduceCtorEq, false_and,
      exists_false, or_false]
    rw [eq_comm, eq_comm (b := o)]
  · simp only [Ends, within, reduceCtorEq, false_and, exists_false, false_or, Except.ok.injEq]
    constructor
    · rintro ⟨rfl, rfl⟩
      exact ⟨t, _, rfl, rfl, rfl⟩
    · rintro ⟨_, t', rfl, h, ho⟩
      exact ⟨congrArg Prod.fst h, ho⟩

/-- An action with a second state succeeds exactly if that state can be made and the action succeeds
with it. -/
theorem ends_within_ok_iff {start : Traced τ} {x : Action (σ × τ) α} {s s' : σ} {a : α} :
    (within start x).Ends s s' (.ok a) ↔
      ∃ t t', start.outcome = .ok t ∧ x.Ends (s, t) (s', t') (.ok a) := by
  simp [ends_within_iff]

/-! #### Calls in a row -/

variable {κ : Type}

/-- The state after calls in a row, whether or not they fail. -/
def afterAll (x : κ → Action σ α) (s : σ) (calls : List κ) : σ :=
  calls.foldl (fun s c => (x c s).1) s

/-- Calls in a row, each with the outcome that it has in its turn. -/
def history (x : κ → Action σ α) : σ → List κ → List (κ × Except Fault α)
  | _, [] => []
  | s, c :: rest => (c, (x c s).2.outcome) :: history x (x c s).1 rest

section Calls

variable (x : κ → Action σ α) (s : σ)

@[simp] theorem afterAll_nil : afterAll x s [] = s := rfl

@[simp] theorem afterAll_cons (c : κ) (rest : List κ) :
    afterAll x s (c :: rest) = afterAll x (x c s).1 rest := rfl

theorem afterAll_append (calls more : List κ) :
    afterAll x s (calls ++ more) = afterAll x (afterAll x s calls) more :=
  List.foldl_append

@[simp] theorem history_nil : history x s [] = [] := rfl

@[simp] theorem history_cons (c : κ) (rest : List κ) :
    history x s (c :: rest) = (c, (x c s).2.outcome) :: history x (x c s).1 rest := rfl

theorem history_append (calls more : List κ) : history x s (calls ++ more) =
    history x s calls ++ history x (afterAll x s calls) more := by
  induction calls generalizing s with
  | nil => rfl
  | cons c rest ih => rw [List.cons_append, history_cons, ih, history_cons, afterAll_cons,
      List.cons_append]

end Calls

/-- A call has the outcome that it has in the state that the calls before it lead to. -/
theorem exists_of_mem_history {x : κ → Action σ α} {s : σ} {calls : List κ}
    {e : κ × Except Fault α} (h : e ∈ history x s calls) :
    ∃ earlier later, calls = earlier ++ e.1 :: later ∧
      (x e.1 (afterAll x s earlier)).2.outcome = e.2 := by
  induction calls generalizing s with
  | nil => cases h
  | cons c rest ih =>
    rw [history_cons, List.mem_cons] at h
    rcases h with rfl | h
    · exact ⟨[], rest, rfl, rfl⟩
    · obtain ⟨earlier, later, hcalls, houtcome⟩ := ih h
      exact ⟨c :: earlier, later, congrArg (c :: ·) hcalls, houtcome⟩

/-- Calls that succeed and change nothing do so in a row. -/
theorem history_of_ends_self {x : κ → Action σ α} {s : σ} {calls : List (κ × α)}
    (h : ∀ e ∈ calls, (x e.1).Ends s s (.ok e.2)) :
    afterAll x s (calls.map (·.1)) = s ∧
      history x s (calls.map (·.1)) = calls.map fun e => (e.1, .ok e.2) := by
  induction calls with
  | nil => exact ⟨rfl, rfl⟩
  | cons e rest ih =>
    rw [List.forall_mem_cons] at h
    obtain ⟨hstate, hhistory⟩ := ih h.2
    rw [List.map_cons, afterAll_cons, history_cons, List.map_cons, h.1.1, h.1.2, hstate, hhistory]
    exact ⟨rfl, rfl⟩

end Action

end IsaNames
