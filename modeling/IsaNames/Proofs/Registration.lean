import IsaNames.Proofs.Space

/-!
# Registration is all or nothing

A registration writes three times: a range of registers, a range of opcodes, and the names.  Each
write repeats the checks it depends on, but the check made beforehand already covers them all, so
that none of the three can be refused half-way.

## Main results

* `SharedSpace.registration_all_or_nothing` — **the check foretells the writes, and a registration
  is done as a whole or leaves everything as it was.**
-/

namespace IsaNames.SharedSpace

variable {ε : Type}

/-- **The check foretells the writes, and a registration is done as a whole or leaves everything as
it was.**  The check of an architecture never changes the space, and it passes exactly when the
three writes in a row would succeed.  A provider that registers its architecture adds one range of
registers, one range of opcodes and the architecture; one that fails, in whatever way, changes
neither the space nor whether it is registered. -/
theorem registration_all_or_nothing (s : SharedSpace ε) :
    (∀ a : Architecture, (check a s).1 = s ∧ ∀ registerNamer opcodeNamer : Namer ε,
      ((check a s).2.outcome = .ok () ↔
        (writes a registerNamer opcodeNamer s).2.outcome = .ok ())) ∧
    ∀ p : Provider,
      (∃ a p', p.registered = false ∧ (Provider.build s.generic).Ends p p' (.ok a) ∧
        Provider.register.Ends (s, p) (s.entered a, { p' with registered := true }) (.ok a)) ∨
      (∃ e p', p'.registered = p.registered ∧
        Provider.register.Ends (s, p) (s, p') (.error e)) := by
  refine ⟨fun a => ⟨rfl, fun m n => ?_⟩, fun p => ?_⟩
  · rw [(check_guarded s a).outcome_eq_ok_iff]
    constructor
    · intro hadmits
      exact (ends_writes_ok_iff.mpr ⟨hadmits, rfl⟩).2
    · intro hwrites
      exact (ends_writes_ok_iff.mp ⟨rfl, hwrites⟩).1
  · rcases Provider.register_cases s p with ⟨a, p', hp, hbuild, -, hends⟩ | ⟨e, p', -, hp, hends⟩
    · exact .inl ⟨a, p', hp, hbuild, hends⟩
    · exact .inr ⟨e, p', hp, hends⟩

end IsaNames.SharedSpace
