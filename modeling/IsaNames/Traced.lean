import IsaNames.Fault
import IsaNames.Log.Record

/-!
# Computations that log and may fail

A computation of the library answers with a value or a fault, and in either case has written records
on the way.  An action does so on a state, and what it wrote to the state before it failed stays.

## Main definitions

* `Traced` — the records written and the outcome.
* `Traced.flawed` — a flaw is reported in the log at the moment it arises.
* `Action` — a traced computation on a state.
-/

namespace IsaNames

open Log (Record)

/-- The record that reports a notice. -/
def Notice.record (n : Notice) : Record := Log.Part.notices.record Log.Level.error n.text

/-! ### Traced computations -/

/-- The outcome of a computation, after the records that it wrote. -/
structure Traced (α : Type) where
  log : List Record
  outcome : Except Fault α

namespace Traced

variable {α β : Type}

instance : Monad Traced where
  pure a := ⟨[], .ok a⟩
  bind x f :=
    match x with
    | ⟨log, .error e⟩ => ⟨log, .error e⟩
    | ⟨log, .ok a⟩ =>
      let y := f a
      ⟨log ++ y.log, y.outcome⟩

@[simp] theorem pure_def (a : α) : (pure a : Traced α) = ⟨[], .ok a⟩ := rfl

@[simp] theorem ok_bind (log : List Record) (a : α) (f : α → Traced β) :
    (⟨log, .ok a⟩ : Traced α) >>= f = ⟨log ++ (f a).log, (f a).outcome⟩ := rfl

@[simp] theorem error_bind (log : List Record) (e : Fault) (f : α → Traced β) :
    (⟨log, .error e⟩ : Traced α) >>= f = ⟨log, .error e⟩ := rfl

instance : LawfulMonad Traced := LawfulMonad.mk' Traced
  (fun x => by rcases x with ⟨log, _ | a⟩ <;> simp [Functor.map])
  (fun a f => by simp)
  (fun x f g => by
    rcases x with ⟨log, _ | a⟩
    · rfl
    · rcases h : f a with ⟨log', _ | b⟩ <;> simp [h])

/-- Writes one record. -/
def note (r : Record) : Traced Unit := ⟨[r], .ok ()⟩

/-- Fails without a word in the log. -/
def fail (e : Fault) : Traced α := ⟨[], .error e⟩

/-- Fails with a flaw, which is reported in the log; if what is to be said about it cannot be
written, that is the fault instead, and the log stays silent. -/
def raise (f : Flaw) : Traced α :=
  if f.cause.phrase.isWritable then ⟨[f.notice.record], .error (.flaw f)⟩
  else fail .numberTooLong

/-- A computation whose flaw, if it has one, is reported in the log. -/
def flawed : Except Flaw α → Traced α
  | .ok a => pure a
  | .error f => raise f

/-- A computation on ranges, which leaves no record. -/
def ranged : Except BadRange α → Traced α
  | .ok a => pure a
  | .error b => fail (.badRange b)

end Traced

/-! ### Actions on a state -/

/-- A traced computation that reads and writes a state. -/
def Action (σ α : Type) : Type := σ → σ × Traced α

namespace Action

variable {σ τ α β : Type}

instance : Monad (Action σ) where
  pure a s := (s, pure a)
  bind x f s :=
    match x s with
    | (s', ⟨log, .error e⟩) => (s', ⟨log, .error e⟩)
    | (s', ⟨log, .ok a⟩) =>
      let (s'', y) := f a s'
      (s'', ⟨log ++ y.log, y.outcome⟩)

@[simp] theorem pure_apply (a : α) (s : σ) : (pure a : Action σ α) s = (s, ⟨[], .ok a⟩) := rfl

/-- After a step that succeeds the rest goes on in the new state. -/
theorem bind_of_ok {x : Action σ α} {f : α → Action σ β} {s s' : σ} {log : List Record} {a : α}
    (h : x s = (s', ⟨log, .ok a⟩)) :
    (x >>= f) s = ((f a s').1, ⟨log ++ (f a s').2.log, (f a s').2.outcome⟩) := by
  simp [bind, h]

/-- After a step that fails nothing more is done, and what it wrote to the state stays. -/
theorem bind_of_error {x : Action σ α} {f : α → Action σ β} {s s' : σ} {log : List Record}
    {e : Fault} (h : x s = (s', ⟨log, .error e⟩)) : (x >>= f) s = (s', ⟨log, .error e⟩) := by
  simp [bind, h]

instance : LawfulMonad (Action σ) := LawfulMonad.mk' (Action σ)
  (fun x => by
    change (x >>= fun a => pure a) = x
    funext s
    rcases h : x s with ⟨s', log, _ | a⟩
    · exact bind_of_error h
    · rw [bind_of_ok h, pure_apply, List.append_nil])
  (fun a f => by
    funext s
    rw [bind_of_ok (pure_apply a s), List.nil_append])
  (fun x f g => by
    funext s
    rcases h : x s with ⟨s', log, _ | a⟩
    · rw [bind_of_error (bind_of_error h), bind_of_error h]
    · rcases h' : f a s' with ⟨s'', log', _ | b⟩
      · rw [bind_of_ok (f := fun a => f a >>= g) h, bind_of_error h',
          bind_of_error ((bind_of_ok h).trans (by rw [h']))]
      · rw [bind_of_ok (f := fun a => f a >>= g) h, bind_of_ok h',
          bind_of_ok (a := b) ((bind_of_ok h).trans (by rw [h']))]
        simp)

/-- A traced computation that leaves the state alone. -/
def lift (x : Traced α) : Action σ α := fun s => (s, x)

/-- The state. -/
def read : Action σ σ := fun s => (s, pure s)

/-- Changes the state. -/
def update (f : σ → σ) : Action σ Unit := fun s => (f s, pure ())

/-- Replaces the state by the result of a computation, unless that one fails. -/
def replace (f : σ → Traced σ) : Action σ Unit := fun s =>
  match f s with
  | ⟨log, .error e⟩ => (s, ⟨log, .error e⟩)
  | ⟨log, .ok s'⟩ => (s', ⟨log, .ok ()⟩)

/-- The state that an action ends in, if it succeeds. -/
def final (x : Action σ Unit) (s : σ) : Traced σ :=
  match x s with
  | (_, ⟨log, .error e⟩) => ⟨log, .error e⟩
  | (s', ⟨log, .ok ()⟩) => ⟨log, .ok s'⟩

/-- An action on the state together with a second one, which is made for it and given up after. -/
def within (start : Traced τ) (x : Action (σ × τ) α) : Action σ α := fun s =>
  match start with
  | ⟨log, .error e⟩ => (s, ⟨log, .error e⟩)
  | ⟨log, .ok t⟩ =>
    let ((s', _), y) := x (s, t)
    (s', ⟨log ++ y.log, y.outcome⟩)

/-- An action on the first of two states. -/
def onFirst (x : Action σ α) : Action (σ × τ) α := fun (s, t) =>
  let (s', y) := x s
  ((s', t), y)

/-- An action on the second of two states. -/
def onSecond (x : Action τ α) : Action (σ × τ) α := fun (s, t) =>
  let (t', y) := x t
  ((s, t'), y)

end Action

end IsaNames
