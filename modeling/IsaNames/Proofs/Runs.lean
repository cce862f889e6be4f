import IsaNames.Proofs.Closing
import IsaNames.Workspace

/-!
# Runs of a workspace

The operations on a workspace come in any order, and some of them fail.  An operation touches at most
one of the spaces, and does to it what a call does.  So whatever is said of all calls on a space holds
of each space of a workspace along every run, among them that a closed space stays as it is.

## Main definitions

* `Workspace.after`, `Workspace.afterAll` — the workspace that operations lead to.
* `Workspace.Touches` — what an operation can do to the spaces.
* `Workspace.RegisteredIn` — the architectures that were registered in a space.
* `Workspace.ask` — asks the directory that a space was closed as.
* `Workspace.StaysClosed` — how a space behaves after it was closed.

## Main results

* `Workspace.touches_after` — every operation does to the spaces what `Touches` says.
* `Workspace.reachable_afterAll`, `Workspace.keeps_afterAll` — what holds of the spaces along a run.
* `Workspace.closed_space_stays` — **a space that was closed never changes again.**
-/

namespace IsaNames

namespace Workspace

open SharedSpace (closedFlaw)

/-- A shared space whose namers may consult the drafts of the workspace. -/
abbrev LiveSpace := SharedSpace (List Lexicon.Draft)

variable {w : Workspace} {i j : Nat} {s s' : LiveSpace} {α : Type}

/-! ### Operations on one space -/

theorem ends_onSpaces {x : Action (List LiveSpace) α} {spaces : List LiveSpace}
    {o : Except Fault α} (h : x.Ends w.spaces spaces o) :
    (onSpaces x).Ends w { w with spaces } o := by
  obtain ⟨rfl, rfl⟩ := h
  exact ⟨rfl, rfl⟩

/-- Where the object was there, the answer is what is made of the result. -/
theorem map_answer (o : Except Fault α) (f : α → Answer) :
    (o.map some).map (answer f) = o.map f := by
  cases o <;> rfl

/-- Nothing happens if there is no space of the number. -/
theorem ends_onSpace_absent (hs : w.spaces[i]? = none) (x : Action LiveSpace α) (f : α → Answer) :
    (do return answer f (← onSpaces (onItem i x)) : Action Workspace Answer).Ends w w
      (.ok .absent) := by
  have hitem : (onItem i x).Ends w.spaces w.spaces (.ok none) := by
    unfold Action.Ends onItem
    rw [hs]
    exact ⟨rfl, rfl⟩
  exact (ends_onSpaces hitem).bind_pure (answer f)

/-- An action on a space of a workspace does what it does to the space alone. -/
theorem ends_onSpace (hs : w.spaces[i]? = some s) {x : Action LiveSpace α} {o : Except Fault α}
    (h : x.Ends s s' o) (f : α → Answer) :
    (do return answer f (← onSpaces (onItem i x)) : Action Workspace Answer).Ends w
      { w with spaces := w.spaces.set i s' } (o.map f) := by
  have hitem : (onItem i x).Ends w.spaces (w.spaces.set i s') (o.map some) := by
    unfold Action.Ends onItem
    rw [hs]
    exact ⟨congrArg (w.spaces.set i) h.1, congrArg (Except.map some) h.2⟩
  rw [← map_answer]
  exact (ends_onSpaces hitem).bind_pure (answer f)

/-- A space that is left as it is leaves the spaces as they are. -/
theorem set_spaces_self (hs : w.spaces[i]? = some s) : w.spaces.set i s = w.spaces := by
  obtain ⟨hi, rfl⟩ := List.getElem?_eq_some_iff.mp hs
  rw [List.set_getElem_self hi]

/-- An action that leaves a space as it is leaves the workspace as it is. -/
theorem ends_onSpace_same (hs : w.spaces[i]? = some s) {x : Action LiveSpace α}
    {o : Except Fault α} (h : x.Ends s s o) (f : α → Answer) :
    (do return answer f (← onSpaces (onItem i x)) : Action Workspace Answer).Ends w w
      (o.map f) := by
  have hends := ends_onSpace hs h f
  rw [set_spaces_self hs] at hends
  exact hends

/-! ### Registrations -/

/-- Nothing happens if the provider or the space is not there. -/
theorem ends_register_absent (h : w.providers[j]? = none ∨ w.spaces[i]? = none) :
    (perform (.register j i)).Ends w w (.ok .absent) := by
  have hboth : (registerBoth j i).Ends w w (.ok none) := by
    unfold Action.Ends registerBoth
    cases hs : w.spaces[i]? with
    | none => exact ⟨rfl, rfl⟩
    | some s =>
      have hp := h.resolve_right (by rw [hs]; exact Option.some_ne_none s)
      dsimp only
      rw [registerItem, hp]
      exact ⟨congrArg (fun spaces => { w with spaces }) (set_spaces_self hs), rfl⟩
  exact hboth.bind_pure (answer .architecture)

/-- A registration changes the provider and the space, and nothing else. -/
theorem ends_register (hs : w.spaces[i]? = some s) {p p' : Provider} (hp : w.providers[j]? = some p)
    {o : Except Fault Architecture} (h : Provider.register.Ends (s, p) (s', p') o) :
    (perform (.register j i)).Ends w
      { w with providers := w.providers.set j p', spaces := w.spaces.set i s' }
      (o.map .architecture) := by
  have hboth : (registerBoth j i).Ends w
      { w with providers := w.providers.set j p', spaces := w.spaces.set i s' } (o.map some) := by
    unfold Action.Ends registerBoth
    rw [hs]
    dsimp only
    rw [registerItem, hp]
    exact ⟨congrArg (fun t : LiveSpace × Provider =>
      { w with providers := w.providers.set j t.2, spaces := w.spaces.set i t.1 }) h.1,
      congrArg (Except.map some) h.2⟩
  rw [← map_answer]
  exact hboth.bind_pure (answer .architecture)

/-! ### What an operation can do -/

/-- The workspace after an operation, whether or not it fails. -/
def after (w : Workspace) (o : Operation) : Workspace := (perform o w).1

/-- The workspace after several operations, one after the other. -/
def afterAll (w : Workspace) (operations : List Operation) : Workspace := operations.foldl after w

/-- What an operation can do to the spaces of a workspace. -/
inductive Touches (spaces : List LiveSpace) : List LiveSpace → Prop
  | same : Touches spaces spaces
  /-- A new space is created. -/
  | created {generic : List String} {s : LiveSpace}
      (h : (SharedSpace.create generic).outcome = .ok s) : Touches spaces (spaces ++ [s])
  /-- One of the spaces is called. -/
  | called {i : Nat} {s : LiveSpace} (hs : spaces[i]? = some s)
      (c : SharedSpace.Call (List Lexicon.Draft)) : Touches spaces (spaces.set i (s.after c))

/-- An action on a space of a workspace touches it as the call does that leads to the same state. -/
theorem touches_onSpace (w : Workspace) (i : Nat) {x : Action LiveSpace α}
    (c : SharedSpace.Call (List Lexicon.Draft)) (hx : ∀ s, (x s).1 = s.after c) (f : α → Answer) :
    Touches w.spaces ((do return answer f (← onSpaces (onItem i x)) : Action Workspace Answer)
      w).1.spaces := by
  cases hs : w.spaces[i]? with
  | none =>
    rw [(ends_onSpace_absent hs x f).1]
    exact .same
  | some s =>
    rw [(ends_onSpace hs (x.ends_self s) f).1, hx]
    exact .called hs c

/-- An action that leaves the spaces alone does not touch them, whatever is made of its result. -/
theorem touches_of_spaces_eq {x : Action Workspace α} (hx : (x w).1.spaces = w.spaces)
    (f : α → Answer) : Touches w.spaces ((x >>= fun a => pure (f a)) w).1.spaces := by
  rw [((x.ends_self w).bind_pure f).1, hx]
  exact .same

/-- Every operation does to the spaces what `Touches` says. -/
theorem touches_after (w : Workspace) (o : Operation) : Touches w.spaces (w.after o).spaces := by
  cases o with
  | newDraft => exact .same
  | callDraft => exact touches_of_spaces_eq rfl _
  | newProvider => exact .same
  | build => exact touches_of_spaces_eq rfl _
  | newSpace generic =>
    have hcreate := Action.ends_lift (SharedSpace.create generic : Traced LiveSpace) w
    cases ho : (SharedSpace.create generic : Traced LiveSpace).outcome with
    | error e =>
      rw [ho] at hcreate
      have h : (perform (.newSpace generic)).Ends w w (.error e) :=
        (Action.ends_read w).bind hcreate.bind_error
      rw [after, h.1]
      exact .same
    | ok s =>
      rw [ho] at hcreate
      have h : (perform (.newSpace generic)).Ends w { w with spaces := w.spaces ++ [s] }
          (.ok (.made w.spaces.length)) := by
        refine (Action.ends_read w).bind (hcreate.bind ?_)
        exact (Action.ends_update _ w).bind (Action.ends_pure _ _)
      rw [after, h.1]
      exact .created ho
  | register j i =>
    rw [after]
    cases hs : w.spaces[i]? with
    | none =>
      rw [(ends_register_absent (.inr hs)).1]
      exact .same
    | some s =>
      cases hp : w.providers[j]? with
      | none =>
        rw [(ends_register_absent (.inl hp)).1]
        exact .same
      | some p =>
        rw [(ends_register hs hp (Action.ends_self Provider.register (s, p))).1]
        exact .called hs (.register p)
  | claim i category range namer owner =>
    exact touches_onSpace w i (.claim category range namer owner) (fun _ => rfl) fun _ => .done
  | check i a => exact touches_onSpace w i (.check a) (fun _ => rfl) fun _ => .done
  | attach i a => exact touches_onSpace w i (.attach a) (fun _ => rfl) fun _ => .done
  | close i => exact touches_onSpace w i .close (fun _ => rfl) .directory
  | startUp => exact touches_of_spaces_eq rfl _

/-! ### Runs -/

theorem Touches.reachable {spaces spaces' : List LiveSpace} (h : Touches spaces spaces')
    (hall : ∀ s ∈ spaces, s.Reachable) : ∀ s ∈ spaces', s.Reachable := by
  cases h with
  | same => exact hall
  | created h =>
    rw [List.forall_mem_append, List.forall_mem_singleton]
    exact ⟨hall, .create h⟩
  | called hs c =>
    intro t ht
    rcases List.mem_or_eq_of_mem_set ht with ht | rfl
    · exact hall t ht
    · exact (hall _ (List.mem_of_getElem? hs)).after c

theorem Touches.keeps {spaces spaces' : List LiveSpace} (h : Touches spaces spaces')
    (hs : spaces[i]? = some s) : ∃ s', spaces'[i]? = some s' ∧ s.Keeps s' := by
  cases h with
  | same => exact ⟨s, hs, .refl s⟩
  | created =>
    have hi := (List.getElem?_eq_some_iff.mp hs).1
    exact ⟨s, (List.getElem?_append_left hi).trans hs, .refl s⟩
  | @called j t ht c =>
    by_cases hij : j = i
    · subst hij
      rw [hs, Option.some.injEq] at ht
      subst ht
      have hi := (List.getElem?_eq_some_iff.mp hs).1
      exact ⟨s.after c, List.getElem?_set_self hi, s.keeps_after c⟩
    · exact ⟨s, (List.getElem?_set_ne hij).trans hs, .refl s⟩

/-- All spaces along a run are reached by calls. -/
theorem reachable_afterAll (operations : List Operation) (w : Workspace)
    (hw : ∀ s ∈ w.spaces, s.Reachable) : ∀ s ∈ (w.afterAll operations).spaces, s.Reachable := by
  induction operations generalizing w with
  | nil => exact hw
  | cons o rest ih => exact ih (w.after o) ((touches_after w o).reachable hw)

/-- What a space keeps along a run. -/
theorem keeps_afterAll (operations : List Operation) (w : Workspace) (hs : w.spaces[i]? = some s) :
    ∃ s', (w.afterAll operations).spaces[i]? = some s' ∧ s.Keeps s' := by
  induction operations generalizing w s with
  | nil => exact ⟨s, hs, .refl s⟩
  | cons o rest ih =>
    obtain ⟨s₁, hs₁, hkeeps⟩ := (touches_after w o).keeps hs
    obtain ⟨s', hs', hkeeps'⟩ := ih (w.after o) hs₁
    exact ⟨s', hs', hkeeps.trans hkeeps'⟩

/-! ### Architectures that were registered -/

/-- The architecture was registered in the space of the given number by one of the operations, which
began with an empty workspace. -/
def RegisteredIn (i : Nat) (operations : List Operation) (a : Architecture) : Prop :=
  ∃ earlier j later, operations = earlier ++ .register j i :: later ∧
    (perform (.register j i) (afterAll {} earlier)).2.outcome = .ok (.architecture a)

/-- A registration that succeeds enters the architecture in the space. -/
theorem spaces_of_register {a : Architecture}
    (h : (perform (.register j i) w).2.outcome = .ok (.architecture a)) :
    ∃ s : LiveSpace, (w.after (.register j i)).spaces[i]? = some (s.entered a) := by
  cases hs : w.spaces[i]? with
  | none => cases h.symm.trans (ends_register_absent (.inr hs)).2
  | some s =>
    cases hp : w.providers[j]? with
    | none => cases h.symm.trans (ends_register_absent (.inl hp)).2
    | some p =>
      have hends := ends_register hs hp (Action.ends_self Provider.register (s, p))
      obtain ⟨a', ho, ha⟩ := Except.map_eq_ok_iff.mp (hends.2.symm.trans h)
      cases ha
      obtain ⟨-, -, -, hentered⟩ := Provider.ends_register_ok_iff.mp ⟨_, rfl, ho⟩
      rw [hentered] at hends
      refine ⟨s, ?_⟩
      rw [after, hends.1]
      exact List.getElem?_set_self (List.getElem?_eq_some_iff.mp hs).1

/-- What was registered in a space is held in it from then on. -/
theorem holdings_of_registeredIn {operations : List Operation} {a : Architecture}
    (h : RegisteredIn i operations a) (hs : (afterAll {} operations).spaces[i]? = some s) :
    a.registerHolding ∈ s.registers ∧ a.opcodeHolding ∈ s.opcodes := by
  obtain ⟨earlier, j, later, rfl, ha⟩ := h
  obtain ⟨s₁, hs₁⟩ := spaces_of_register ha
  obtain ⟨s₂, hs₂, hkeeps⟩ := keeps_afterAll later _ hs₁
  rw [afterAll, List.foldl_append, List.foldl_cons, ← afterAll, ← afterAll, hs₂,
    Option.some.injEq] at hs
  subst hs
  exact ⟨hkeeps.holdings .registers (List.mem_append_right _ (List.mem_singleton_self _)),
    hkeeps.holdings .opcodes (List.mem_append_right _ (List.mem_singleton_self _))⟩

/-! ### Closed spaces -/

/-- What the directory that a space was closed as answers at this moment. -/
def ask (w : Workspace) (i : Nat) (q : Directory.Question) : Option Directory.Reply :=
  (w.spaces[i]?.bind (·.closedAs)).map (·.reply w.drafts q)

/-- How the space `s` of number `i` behaves in the workspace `w'`, after it was closed as `dir` in
the workspace `w`. -/
structure StaysClosed (registered : Architecture → Prop) (i : Nat) (s : LiveSpace)
    (dir : LiveDirectory) (w w' : Workspace) : Prop where
  space : w'.spaces[i]? = some s
  claim : ∀ category range namer owner, (perform (.claim i category range namer owner)).Ends w' w'
    (.error (.flaw (closedFlaw (.range category) owner)))
  check : ∀ a, (perform (.check i a)).Ends w' w' (.error (.flaw (closedFlaw .architecture a.name)))
  attach : ∀ a, (perform (.attach i a)).Ends w' w' (.error (.flaw (closedFlaw .attachment a.name)))
  /-- A registration fails with a flaw, unless a new provider of the declaration fails to build in
  the same way.  The provider may keep what it built, and nothing else changes. -/
  register : ∀ j p, w'.providers[j]? = some p →
    ∃ e p', p'.declaration = p.declaration ∧ p'.registered = p.registered ∧
      (perform (.register j i)).Ends w' { w' with providers := w'.providers.set j p' } (.error e) ∧
      ((∃ f, e = .flaw f) ∨
        (Provider.build s.generic { declaration := p.declaration }).2.outcome = .error e)
  close : (perform (.close i)).Ends w' w' (.ok (.directory dir))
  /-- What is settled is answered as right after the closing. -/
  ask_eq : ∀ q, s.Settles registered q → w'.ask i q = some (dir.reply w.drafts q)

/-- A closed space that calls lead to behaves so wherever it is found. -/
theorem staysClosed_of_closedAs {registered : Architecture → Prop} {dir : LiveDirectory}
    {w' : Workspace} (hs : s.Reachable) (hdir : s.closedAs = some dir)
    (hregistered : ∀ a, registered a → a.registerHolding ∈ s.registers ∧ a.opcodeHolding ∈ s.opcodes)
    (hspace : w'.spaces[i]? = some s) : StaysClosed registered i s dir w w' := by
  have hclosed : ¬s.IsOpen := by
    rw [SharedSpace.IsOpen, hdir]
    exact Option.some_ne_none dir
  have hclose : SharedSpace.close.Ends s s (.ok dir) := by
    unfold Action.Ends SharedSpace.close
    rw [hdir]
    exact ⟨rfl, rfl⟩
  refine ⟨hspace, ?_, ?_, ?_, ?_, ends_onSpace_same hspace hclose .directory, ?_⟩
  · intro category range namer owner
    exact ends_onSpace_same hspace
      (SharedSpace.ends_claim_closed hclosed category range namer owner) fun _ => .done
  · intro a
    exact ends_onSpace_same hspace (SharedSpace.ends_check_closed hclosed a) fun _ => .done
  · intro a
    exact ends_onSpace_same hspace (SharedSpace.ends_attach_closed hclosed a) fun _ => .done
  · intro j p hp
    obtain ⟨e, p', hdecl, hreg, hends, he⟩ := Provider.ends_register_closed hclosed p
    refine ⟨e, p', hdecl, hreg, ?_, he⟩
    have h := ends_register hspace hp hends
    rw [set_spaces_self hspace] at h
    exact h
  · intro q hq
    rw [ask, hspace, Option.bind_some, hdir, hs.orderly.closedAs_eq dir hdir]
    exact congrArg some (SharedSpace.reply_eq_of_settles hs hregistered hq _ _)

/-- **A space that was closed never changes again.**  Whatever is done later with the objects of the
workspace, it refuses every write, closing it again yields the same directory, and questions to that
have the answers they had right after the first closing.  Excepted are only the texts of IDs whose
namers may consult drafts that are still written. -/
theorem closed_space_stays {operations : List Operation}
    (hi : i < (afterAll {} operations).spaces.length) :
    ∃ w dir s, (perform (.close i)).Ends (afterAll {} operations) w (.ok (.directory dir)) ∧
      ∀ later, StaysClosed (RegisteredIn i operations) i s dir w (w.afterAll later) := by
  have hs := List.getElem?_eq_getElem hi
  generalize (afterAll {} operations).spaces[i] = s at hs
  have hreach : s.Reachable :=
    reachable_afterAll operations {} (List.forall_mem_nil _) s (List.mem_of_getElem? hs)
  have hclose := hreach.orderly.ends_close
  have hreach' : (s.after .close).Reachable := hreach.after .close
  rw [SharedSpace.after, hclose.1] at hreach'
  obtain ⟨w, hends, hspace⟩ : ∃ w : Workspace,
      (perform (.close i)).Ends (afterAll {} operations) w (.ok (.directory s.directory)) ∧
        w.spaces[i]? = some { s with closedAs := some s.directory } :=
    ⟨_, ends_onSpace hs hclose .directory, List.getElem?_set_self hi⟩
  have hheld : ∀ a, RegisteredIn i operations a →
      a.registerHolding ∈ s.registers ∧ a.opcodeHolding ∈ s.opcodes :=
    fun a ha => holdings_of_registeredIn ha hs
  refine ⟨w, s.directory, { s with closedAs := some s.directory }, hends, fun later => ?_⟩
  -- the space is still there after the later operations, and it is the same
  obtain ⟨s', hs', hkeeps⟩ := keeps_afterAll later w hspace
  rw [hkeeps.closed (Option.some_ne_none _)] at hs'
  exact staysClosed_of_closedAs hreach' rfl hheld hs'

/-- A space with an architecture that a provider registered, and with a range whose namer consults a
draft. -/
theorem closed_space_stays_of_draft :
    ∃ operations : List Operation, 0 < (afterAll {} operations).spaces.length ∧
      (∃ a, a.name = "x" ∧ RegisteredIn 0 operations a) ∧
      ∃ w dir s, (perform (.close 0)).Ends (afterAll {} operations) w (.ok (.directory dir)) ∧
        ∀ later, StaysClosed (RegisteredIn 0 operations) 0 s dir w (w.afterAll later) := by
  have hlength : 0 < (afterAll {} [.newSpace ["nop"], .newDraft "registro" "R???" true none,
      .claim 0 .registers ⟨9, 2⟩ (liveNamer 0) "y",
      .newProvider ⟨"x", 0, [⟨"r", 1, false⟩], [], 1, ["add"]⟩, .register 0 0]).spaces.length := by
    decide +kernel
  refine ⟨_, hlength, ?_, closed_space_stays hlength⟩
  refine ⟨_, ?_, [_, _, _, _], 0, [], rfl, rfl⟩
  rfl

end Workspace

end IsaNames
