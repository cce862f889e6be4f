import IsaNames.Proofs.Dispatch
import IsaNames.Proofs.Lexicon
import IsaNames.Proofs.Startup

/-!
# Closed spaces

A space only grows: what was handed out stays handed out.  Once it is closed it refuses every write,
and nothing about it changes any more.  Its directory then answers from what it holds; only spelling
an ID out may lead to state that is still written, and for most IDs it does not.

## Main definitions

* `SharedSpace.Keeps` — what a space keeps through any calls.
* `Directory.Question`, `Directory.Reply` — questions to a directory and answers as data.
* `SharedSpace.Settles` — the questions whose answers cannot depend on what namers consult.

## Main results

* `SharedSpace.ends_claim_closed`, `SharedSpace.ends_attach_closed`, `SharedSpace.ends_check_closed`,
  `Provider.ends_register_closed` — a closed space refuses every write and stays as it is.
* `SharedSpace.keeps_after` — what a space keeps through a call.
* `SharedSpace.reply_eq_of_settles` — **settled questions have the same answers in every state.**
-/

namespace IsaNames

variable {ε : Type}

/-! ### Writes to a closed space -/

namespace SharedSpace

variable {s : SharedSpace ε}

/-- The flaw of a write to a closed space. -/
def closedFlaw (write : SpaceWrite) (owner : String) : Flaw := ⟨.closedSpace write, some owner⟩

theorem fault_closedFlaw (write : SpaceWrite) (owner : String) :
    (closedFlaw write owner).fault = .flaw (closedFlaw write owner) :=
  Flaw.fault_of_numbers_eq_nil rfl

theorem checkOpen_of_closed (h : ¬s.IsOpen) (write : SpaceWrite) (owner : String) :
    s.checkOpen write owner = .error (closedFlaw write owner) := by
  rw [checkOpen, if_pos (Option.isSome_iff_ne_none.mpr h)]
  rfl

theorem checkFree_of_closed (h : ¬s.IsOpen) (category : Category) (range : IdRange)
    (owner : String) :
    s.checkFree category range owner = .error (closedFlaw (.range category) owner) := by
  rw [checkFree, checkOpen_of_closed h]
  rfl

theorem checkAdmissible_of_closed (h : ¬s.IsOpen) (a : Architecture) :
    s.checkAdmissible a = .error (closedFlaw .architecture a.name) := by
  rw [checkAdmissible, checkOpen_of_closed h]
  rfl

/-- A closed space hands out no range. -/
theorem ends_claim_closed (h : ¬s.IsOpen) (category : Category) (range : IdRange) (namer : Namer ε)
    (owner : String) :
    (claim category range namer owner).Ends s s
      (.error (.flaw (closedFlaw (.range category) owner))) := by
  rw [← fault_closedFlaw]
  exact ends_claim_error (checkFree_of_closed h category range owner) namer

/-- No architecture is attached to a closed space. -/
theorem ends_attach_closed (h : ¬s.IsOpen) (a : Architecture) :
    (attach a).Ends s s (.error (.flaw (closedFlaw .attachment a.name))) := by
  rw [← fault_closedFlaw]
  exact ends_attach_error (checkOpen_of_closed h .attachment a.name)

/-- No architecture passes the check of a closed space. -/
theorem ends_check_closed (h : ¬s.IsOpen) (a : Architecture) :
    (check a).Ends s s (.error (.flaw (closedFlaw .architecture a.name))) := by
  rw [← fault_closedFlaw]
  exact ends_check_error (checkAdmissible_of_closed h a)

end SharedSpace

namespace Provider

/-- A provider that has not built its architecture yet does so as a new one of its declaration. -/
theorem build_of_unbuilt {generic : List String} {p : Provider} (h : p.built = none) :
    (build generic p).2.outcome = (build generic { declaration := p.declaration }).2.outcome := by
  unfold build
  rw [h]
  rcases p.declaration.build generic with ⟨log, _ | a⟩ <;> rfl

/-- If a provider fails to build its architecture, then either it keeps one that was built with other
generic mnemonics, or a new provider of its declaration fails in the same way. -/
theorem build_error_cases {generic : List String} {p : Provider} {e : Fault}
    (h : (build generic p).2.outcome = .error e) :
    (∃ f, e = .flaw f) ∨
      (build generic { declaration := p.declaration }).2.outcome = .error e := by
  cases hbuilt : p.built with
  | none =>
    rw [build_of_unbuilt hbuilt] at h
    exact .inr h
  | some kept =>
    by_cases hgeneric : generic = kept.2
    · rw [hgeneric, (ends_build_kept hbuilt).2] at h
      cases h
    · rw [(ends_build_other hbuilt hgeneric).2, Flaw.fault_of_numbers_eq_nil rfl] at h
      exact .inl ⟨_, (Except.error.inj h).symm⟩

/-- A closed space refuses what a provider registers, with a flaw if the provider's declaration does
not fail to build. -/
theorem ends_register_closed {s : SharedSpace ε} (h : ¬s.IsOpen) (p : Provider) :
    ∃ e p', p'.declaration = p.declaration ∧ p'.registered = p.registered ∧
      register.Ends (s, p) (s, p') (.error e) ∧ ((∃ f, e = .flaw f) ∨
        (build s.generic { declaration := p.declaration }).2.outcome = .error e) := by
  rcases register_ends s p with ⟨_, _, -, -, hadmits, -⟩ | ⟨e, p', he, hdecl, hreg, hends⟩
  · exact absurd hadmits.isOpen h
  refine ⟨e, p', hdecl, hreg, hends, ?_⟩
  cases he with
  | registered => exact .inl ⟨_, Flaw.fault_of_numbers_eq_nil rfl⟩
  | notBuilt _ hbuild => exact build_error_cases hbuild
  | notAdmitted _ _ hcheck =>
    rw [SharedSpace.checkAdmissible_of_closed h, Except.error.injEq] at hcheck
    rw [← hcheck]
    exact .inl ⟨_, SharedSpace.fault_closedFlaw _ _⟩

end Provider

namespace SharedSpace

/-! ### What a space keeps -/

/-- What a space keeps through any calls: what was handed out stays handed out, and a closed space
stays as it is. -/
structure Keeps (s s' : SharedSpace ε) : Prop where
  generic : s'.generic = s.generic
  genericNames : s'.genericNames = s.genericNames
  holdings : ∀ category, s.holdings category ⊆ s'.holdings category
  closed : ¬s.IsOpen → s' = s

theorem Keeps.refl (s : SharedSpace ε) : s.Keeps s :=
  ⟨rfl, rfl, fun _ => List.Subset.refl _, fun _ => rfl⟩

theorem Keeps.trans {s s' s'' : SharedSpace ε} (h : s.Keeps s') (h' : s'.Keeps s'') : s.Keeps s'' where
  generic := h'.generic.trans h.generic
  genericNames := h'.genericNames.trans h.genericNames
  holdings := fun category => List.Subset.trans (h.holdings category) (h'.holdings category)
  closed := by
    intro hclosed
    have hs := h.closed hclosed
    subst hs
    exact h'.closed hclosed

/-- Only an open space is written to, and each write adds holdings at the end. -/
theorem Step.keeps {s s' : SharedSpace ε} (h : Step s s') : s.Keeps s' := by
  cases h with
  | same => exact .refl s
  | @claimed category h hopen =>
    refine ⟨?_, ?_, ?_, fun hclosed => absurd hopen hclosed⟩
    · cases category <;> rfl
    · cases category <;> rfl
    · intro category'
      by_cases hc : category' = category
      · rw [hc, holdings_add_self]
        exact List.subset_append_left _ _
      · rw [holdings_add_of_ne hc]
        exact List.Subset.refl _
  | attached hopen =>
    refine ⟨rfl, rfl, ?_, fun hclosed => absurd hopen hclosed⟩
    intro category
    cases category <;> exact List.Subset.refl _
  | entered hadmits =>
    refine ⟨rfl, rfl, ?_, fun hclosed => absurd hadmits.isOpen hclosed⟩
    intro category
    cases category <;> exact List.subset_append_left _ _
  | closed hopen =>
    refine ⟨rfl, rfl, ?_, fun hclosed => absurd hopen hclosed⟩
    intro category
    cases category <;> exact List.Subset.refl _

/-- What a space keeps through a call. -/
theorem keeps_after (s : SharedSpace ε) (c : Call ε) : s.Keeps (s.after c) := (step_after s c).keeps

/-- The generic mnemonics hold the first opcodes from the start. -/
theorem Reachable.generic_mem {s : SharedSpace ε} (h : s.Reachable) :
    ⟨genericRange s.generic, .ofLexicon s.genericNames, genericOwner⟩ ∈ s.opcodes := by
  induction h with
  | create h =>
    obtain ⟨draft, -, rfl⟩ := create_eq_ok_iff.mp h
    exact List.mem_singleton_self _
  | @after s c _ ih =>
    have hkeeps := s.keeps_after c
    rw [hkeeps.generic, hkeeps.genericNames]
    exact hkeeps.holdings .opcodes ih

end SharedSpace

/-! ### Questions -/

namespace Directory

/-- A question to a directory. -/
inductive Question
  | registerText (id : Int)
  | opcodeText (id : Int)
  | registerOwner (id : Int)
  | opcodeOwner (id : Int)
  | registerRanges
  | opcodeRanges
  | names
  | architecture (name : String)
  | registerId (architecture name : String)
  | opcodeId (architecture name : String)

/-- What a directory answers. -/
inductive Reply
  | text (phrase : Text.Phrase)
  | owner (owner? : Option String)
  | ranges (ranges : List (String × IdRange))
  | names (names : List String)
  | architecture (found : Except Miss Architecture)
  | id (found : Except Miss Int)

/-- The answer to a question, where namers consult the given state. -/
def reply (dir : Directory ε) (state : ε) : Question → Reply
  | .registerText id => .text (dir.showRegister state id)
  | .opcodeText id => .text (dir.showOpcode state id)
  | .registerOwner id => .owner (dir.registerOwner? id)
  | .opcodeOwner id => .owner (dir.opcodeOwner? id)
  | .registerRanges => .ranges dir.registerRanges
  | .opcodeRanges => .ranges dir.opcodeRanges
  | .names => .names dir.names
  | .architecture name => .architecture (dir.architecture name)
  | .registerId architecture name => .id (dir.registerId architecture name)
  | .opcodeId architecture name => .id (dir.opcodeId architecture name)

/-- The fallback stands for an ID that nobody has. -/
theorem spell_ofList_of_free {holdings : List (Holding ε)} (ha : Apart holdings) {id : Int}
    (hfree : ∀ h ∈ holdings, id ∉ h.range) (fallback : String) (state : ε) :
    spell (.ofList holdings) fallback state id = fallbackPhrase fallback id := by
  rw [spell, Chart.find?_ofList ha, scan_eq_none_iff.mpr hfree]

/-- No state is consulted for an ID that nobody has, or whose holding shows it as a lexicon does. -/
theorem spell_ofList_eq {holdings : List (Holding ε)} (ha : Apart holdings) {id : Int}
    (h : (∀ k ∈ holdings, id ∉ k.range) ∨
      ∃ k ∈ holdings, id ∈ k.range ∧ ∃ x, k.namer = .ofLexicon x)
    (fallback : String) (state state' : ε) :
    spell (.ofList holdings) fallback state id = spell (.ofList holdings) fallback state' id := by
  rcases h with hfree | ⟨k, hmem, hid, x, hx⟩
  · rw [spell_ofList_of_free ha hfree, spell_ofList_of_free ha hfree]
  · rw [Chart.spell_ofList ha hmem hid, Chart.spell_ofList ha hmem hid, hx]
    rfl

end Directory

namespace SharedSpace

/-- The questions whose answers cannot depend on what namers consult, if the architectures that were
registered are those with the property `registered`.  Only spelling an ID out can: and it does not
if nobody has the ID, if it is a generic opcode, or if it belongs to such an architecture. -/
def Settles (s : SharedSpace ε) (registered : Architecture → Prop) : Directory.Question → Prop
  | .registerText id =>
    (∀ h ∈ s.registers, id ∉ h.range) ∨ ∃ a, registered a ∧ id ∈ a.registerRange
  | .opcodeText id =>
    (∀ h ∈ s.opcodes, id ∉ h.range) ∨ id ∈ genericRange s.generic ∨
      ∃ a, registered a ∧ id ∈ a.opcodeRange
  | _ => True

/-- **Settled questions have the same answers in every state** of what namers consult. -/
theorem reply_eq_of_settles {s : SharedSpace ε} (hs : s.Reachable) {registered : Architecture → Prop}
    (hregistered : ∀ a, registered a → a.registerHolding ∈ s.registers ∧ a.opcodeHolding ∈ s.opcodes)
    {q : Directory.Question} (hq : s.Settles registered q) (state state' : ε) :
    s.directory.reply state q = s.directory.reply state' q := by
  cases q with
  | registerText id =>
    refine congrArg Directory.Reply.text
      (Directory.spell_ofList_eq (hs.orderly.apart .registers) ?_ _ state state')
    rcases hq with hfree | ⟨a, ha, hid⟩
    · exact .inl hfree
    · exact .inr ⟨_, (hregistered a ha).1, hid, a.registers, rfl⟩
  | opcodeText id =>
    refine congrArg Directory.Reply.text
      (Directory.spell_ofList_eq (hs.orderly.apart .opcodes) ?_ _ state state')
    rcases hq with hfree | hid | ⟨a, ha, hid⟩
    · exact .inl hfree
    · exact .inr ⟨_, hs.generic_mem, hid, s.genericNames, rfl⟩
    · exact .inr ⟨_, (hregistered a ha).2, hid, a.opcodes, rfl⟩
  | _ => rfl

end SharedSpace

end IsaNames
