import IsaNames.Proofs.Agreement
import IsaNames.Proofs.CommandRun
import IsaNames.Proofs.Numbering
import IsaNames.Proofs.PlainNames

/-!
# Texts that may name a RISC-V register

RISC-V is built once on its own, for questions about texts, and once more by each start that it takes
part in, with other generic mnemonics and next to other architectures.  Both have the same lexicon of
registers, so a text is read the same in both places.

## Main definitions

* `Riscv.Reads`, `Riscv.Rejects` — what the questions about a text are answered with.
* `Directory.registerText` — what the register that a text names is shown by in a directory.

## Main results

* `Declaration.registers_of_build` — the lexicon of registers does not depend on the generic
  mnemonics.
* `Riscv.reads_or_rejects` — the questions about a text agree.
* `Riscv.texts_read_alike` — **so do they with every directory that has RISC-V.**
-/

namespace List

/-- Each element of a list has a related one in a related list. -/
theorem Forall₂.exists_of_mem_left {α β : Type} {r : α → β → Prop} {l : List α} {l' : List β}
    (h : Forall₂ r l l') {a : α} (ha : a ∈ l) : ∃ b ∈ l', r a b := by
  induction h with
  | nil => cases ha
  | @cons _ b _ rest hr _ ih =>
    rcases mem_cons.mp ha with rfl | ha
    · exact ⟨b, mem_cons_self, hr⟩
    · obtain ⟨b', hb', hr'⟩ := ih ha
      exact ⟨b', mem_cons_of_mem _ hb', hr'⟩

end List

namespace IsaNames

open Builtin (riscv)

/-- The lexicon of the registers does not depend on the generic mnemonics. -/
theorem Declaration.registers_of_build {d : Declaration} {generic generic' : List String}
    {a a' : Architecture} (h : (d.build generic).outcome = .ok a)
    (h' : (d.build generic').outcome = .ok a') : a.registers = a'.registers := by
  obtain ⟨x, ranges, hregs, -, rfl⟩ := build_eq_ok_iff.mp h
  obtain ⟨x', ranges', hregs', -, rfl⟩ := build_eq_ok_iff.mp h'
  rw [hregs] at hregs'
  cases hregs'
  rfl

/-- What a declaration is built into next to nothing else. -/
def Declaration.builtAlone (d : Declaration) (generic : List String) : Except Fault Architecture :=
  (d.build generic).outcome

theorem Declaration.builtAlone_def (d : Declaration) (generic : List String) :
    d.builtAlone generic = (d.build generic).outcome := rfl

/-- What a directory shows the register of an architecture by that a text names. -/
def Directory.registerText {ε : Type} (dir : Directory ε) (state : ε) (architecture text : String) :
    Except Fault String := do
  let id ← (dir.registerId architecture text).mapError Fault.miss
  Fault.write (dir.showRegister state id)

namespace Builtin.Riscv

variable {a : Architecture} {text : String} {id : Int}

/-! ### Answers -/

/-- The text names a register: it is shown by `name` and has the number `number` in its bank. -/
structure Reads (text name : String) (number : Int) : Prop where
  isRegister : isRegister text = true
  shown : shownRegister text = .ok name
  number_eq : registerNumber text = .ok number
  number_nonneg : 0 ≤ number
  number_lt : number < 32
  /-- The name that is shown names the same register. -/
  shown_shown : shownRegister name = .ok name
  number_shown : registerNumber name = .ok number
  /-- So does the numbered name in one of the banks. -/
  numbered : shownRegister ("x" ++ toString number) = .ok name ∨
    shownRegister ("f" ++ toString number) = .ok name

/-- The text names no register, and it is quoted as it was given. -/
structure Rejects (text : String) : Prop where
  isRegister : isRegister text = false
  shown : shownRegister text = .error (.miss ⟨Miss.register, text⟩)
  number : registerNumber text = .error (.miss ⟨Miss.register, text⟩)

/-! ### The architecture on its own -/

/-- There are 32 registers in each of the two banks. -/
theorem stem_of_hasRegister {j i : Nat} {b : Bank} (h : riscv.HasRegister j b i) :
    (b.stem = "x" ∨ b.stem = "f") ∧ (i : Int) < 32 := by
  obtain ⟨hb, hi⟩ := h
  have hmem : b = ⟨"x", 32, true⟩ ∨ b = ⟨"f", 32, true⟩ := by
    simpa [riscv] using List.mem_of_getElem? hb
  rcases hmem with rfl | rfl
  · exact ⟨.inl rfl, hi⟩
  · exact ⟨.inr rfl, hi⟩

/-- What RISC-V is built into.  The two sides are compared under one name, since the outcome of a
build would be computed to compare it with anything else. -/
theorem architecture_eq : architecture = (riscv.build generic).outcome := by
  have hname : architecture = riscv.builtAlone generic := rfl
  rw [hname, Declaration.builtAlone_def]

theorem build_of_architecture (ha : architecture = .ok a) : (riscv.build generic).outcome = .ok a :=
  architecture_eq.symm.trans ha

theorem exists_architecture : ∃ a, architecture = .ok a := by
  obtain ⟨a, ha⟩ := riscv_isPlain.wellFormed.exists_build
  exact ⟨a, architecture_eq.trans ha⟩

section Answers

variable (ha : architecture = .ok a)

include ha

theorem isRegister_eq (text : String) : isRegister text = a.registers.contains text := by
  rw [isRegister, ha]
  rfl

theorem registerId_eq (text : String) :
    registerId text = (a.registers.idOf text).mapError Fault.miss := by
  rw [registerId, ha]
  rfl

theorem shownRegister_of_ok (h : a.registers.idOf text = .ok id) :
    shownRegister text = Fault.write (a.registers.display id) := by
  rw [shownRegister, registerId_eq ha, ha, h]
  rfl

theorem registerNumber_of_ok (h : a.registers.idOf text = .ok id) :
    registerNumber text = (a.indexOf id).mapError Fault.badRange := by
  rw [registerNumber, registerId_eq ha, ha, h]
  rfl

/-- A text that is not known is rejected. -/
theorem rejects_of_miss (h : a.registers.idOf text = .error ⟨Miss.register, text⟩) : Rejects text where
  isRegister := by
    rw [isRegister_eq ha, Bool.eq_false_iff, Ne, Lexicon.contains_iff, h]
    rintro ⟨id, ⟨⟩⟩
  shown := by
    rw [shownRegister, registerId_eq ha, ha, h]
    rfl
  number := by
    rw [registerNumber, registerId_eq ha, ha, h]
    rfl

/-- A text that stands for an ID is read as the register with that ID. -/
theorem reads_of_ok (h : a.registers.idOf text = .ok id) :
    ∃ name number, Fault.write (a.registers.display id) = .ok name ∧ Reads text name number := by
  have hbuild := build_of_architecture ha
  have hcomplete := Declaration.complete_of_build hbuild
  have hrange := hcomplete.register_mem text id h
  obtain ⟨name, hname, hid⟩ :=
    hcomplete.registers_sound.idOf_display (hcomplete.register_shown id hrange)
  obtain ⟨j, b, -, i, hregister, -, -, hindex, hnumbered⟩ := Declaration.exists_indexOf hbuild hrange
  obtain ⟨hstem, hlt⟩ := stem_of_hasRegister hregister
  have hwrite : Fault.write (a.registers.display id) = .ok name := by rw [Fault.write, hname]
  -- every text that stands for the ID is answered with the name and the number
  have hshown : ∀ {other}, a.registers.idOf other = .ok id → shownRegister other = .ok name := by
    intro other hother
    rw [shownRegister_of_ok ha hother, hwrite]
  have hnumber : ∀ {other}, a.registers.idOf other = .ok id → registerNumber other = .ok (i : Int) := by
    intro other hother
    rw [registerNumber_of_ok ha hother, hindex]
    rfl
  refine ⟨name, i, hwrite, ?_⟩
  exact
    { isRegister := by
        rw [isRegister_eq ha, Lexicon.contains_iff]
        exact ⟨id, h⟩
      shown := hshown h
      number_eq := hnumber h
      number_nonneg := Int.natCast_nonneg i
      number_lt := by omega
      shown_shown := hshown hid
      number_shown := hnumber hid
      numbered := by
        have htext : toString (i : Int) = toString i := rfl
        rw [htext]
        rcases hstem with hstem | hstem
        · rw [hstem] at hnumbered
          exact .inl (hshown hnumbered)
        · rw [hstem] at hnumbered
          exact .inr (hshown hnumbered) }

end Answers

/-- A text that is not known is quoted as the name of a register. -/
theorem idOf_cases (ha : architecture = .ok a) (text : String) :
    (∃ id, a.registers.idOf text = .ok id) ∨
      a.registers.idOf text = .error ⟨Miss.register, text⟩ := by
  rw [Lexicon.idOf, (Declaration.kinds_of_build (build_of_architecture ha)).1]
  cases a.registers.idOf? text with
  | some id => exact .inl ⟨id, rfl⟩
  | none => exact .inr rfl

/-- **The questions about a text agree**: it names a register for all of them or for none. -/
theorem reads_or_rejects (text : String) :
    (∃ name number, Reads text name number) ∨ Rejects text := by
  obtain ⟨a, ha⟩ := exists_architecture
  rcases idOf_cases ha text with ⟨id, h⟩ | h
  · obtain ⟨name, number, -, hreads⟩ := reads_of_ok ha h
    exact .inl ⟨name, number, hreads⟩
  · exact .inr (rejects_of_miss ha h)

/-! ### Directories with RISC-V -/

section Directories

variable {ε : Type} {generic : List String} {declarations : List Declaration} {dir : Directory ε}

/-- A directory with RISC-V looks its registers up in the lexicon of the architecture on its own, and
spells them out by it. -/
theorem lookups_of_start (hmem : riscv ∈ declarations)
    (h : (Startup.ofDeclarations generic declarations).outcome = .ok dir)
    (ha : architecture = .ok a) :
    (∀ text, dir.registerId riscv.name text = a.registers.idOf text) ∧
      ∀ text id, a.registers.idOf text = .ok id →
        ∀ state, dir.showRegister state id = a.registers.display id := by
  obtain ⟨hbuilt, ⟨hregs, hdirRegs⟩, hops, hdirOps⟩ := Startup.ofDeclarations_spec h
  obtain ⟨a', ha', hfresh⟩ := hbuilt.exists_of_mem_left hmem
  have hbuild : (riscv.build generic).outcome = .ok a' := Provider.build_of_fresh hfresh
  have hsame : a.registers = a'.registers :=
    Declaration.registers_of_build (build_of_architecture ha) hbuild
  have hplain : Text.IsPlain riscv.name := by decide +kernel
  have hname : Text.key true riscv.name = a'.name := by
    rw [hplain.key_eq]
    exact (Declaration.BuildsInto.asked hfresh).1.symm
  have hfinds := Directory.finds (Startup.serves_of_ok h).names_nodup ha'
  refine ⟨fun text => ?_, fun text id hid state => ?_⟩
  · rw [hfinds.registerId_eq riscv.name hname, hsame]
  · rw [hsame] at hid ⊢
    have hrange := (Declaration.complete_of_build hbuild).register_mem text id hid
    rw [Directory.showRegister, hdirRegs]
    exact Chart.spell_ofList hregs (List.mem_map_of_mem ha') hrange _ state

/-- **A directory with RISC-V and the questions about a text agree.** -/
theorem registerText_eq (hmem : riscv ∈ declarations)
    (h : (Startup.ofDeclarations generic declarations).outcome = .ok dir) (state : ε)
    (text : String) : dir.registerText state riscv.name text = shownRegister text := by
  obtain ⟨a, ha⟩ := exists_architecture
  obtain ⟨hid, hshow⟩ := lookups_of_start hmem h ha
  rw [Directory.registerText, hid]
  rcases idOf_cases ha text with ⟨id, htext⟩ | htext
  · rw [shownRegister_of_ok ha htext, htext, ← hshow text id htext state]
    rfl
  · rw [(rejects_of_miss ha htext).shown, htext]
    rfl

end Directories

/-- **Every text is read alike.**  It names a register for all questions about it or for none, and what
it is shown by is what any directory says that was started with RISC-V, whatever the generic mnemonics
and the other architectures. -/
theorem texts_read_alike (text : String) :
    ((∃ name number, Reads text name number) ∨ Rejects text) ∧
      ∀ {ε : Type} (generic : List String) (declarations : List Declaration) (dir : Directory ε),
        riscv ∈ declarations → (Startup.ofDeclarations generic declarations).outcome = .ok dir →
        ∀ state, dir.registerText state "riscv" text = shownRegister text :=
  ⟨reads_or_rejects text, fun _ _ _ hmem h state => registerText_eq hmem h state text⟩

/-- The built-in architectures among them. -/
theorem texts_read_alike_of_builtin :
    ∃ dir : Directory Unit, riscv ∈ Builtin.declarations ∧
      (Startup.ofDeclarations generic Builtin.declarations).outcome = .ok dir ∧
      dir.registerText () "riscv" "fp" = shownRegister "fp" := by
  obtain ⟨dir, hdir⟩ := Startup.exists_ofDeclarations_iff.mpr startable
  have hmem : riscv ∈ Builtin.declarations := by simp [Builtin.declarations]
  exact ⟨dir, hmem, hdir, (texts_read_alike "fp").2 generic Builtin.declarations dir hmem hdir ()⟩

end Builtin.Riscv

end IsaNames
