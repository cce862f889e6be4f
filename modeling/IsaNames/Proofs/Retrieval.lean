import IsaNames.Proofs.LowerCase
import IsaNames.Proofs.Space

/-!
# Finding architectures by name

A directory compares the key of what it is asked for with the names of its architectures as they were
declared.  An architecture whose name is its own key is found by every spelling with that key, its
own among them.  Any other one is listed but cannot be found at all, because keys are in normal form;
what is asked for by its name is another architecture or none.

## Main definitions

* `Directory.Finds` — how an architecture is found by name.

## Main results

* `Directory.architecture_eq_ok_iff`, `Directory.architecture_eq_error_iff` — which architecture a
  name leads to, and which names lead to none.
* `SharedSpace.directory_finds_keys` — **a directory finds exactly the architectures that are named
  by keys.**
-/

namespace List

/-- In a list of elements with different keys an element is found by its key. -/
theorem find?_key_eq_some_iff {α β : Type} [BEq β] [LawfulBEq β] {key : α → β} {l : List α}
    (hl : (l.map key).Nodup) {k : β} {a : α} :
    l.find? (fun b => key b == k) = some a ↔ a ∈ l ∧ key a = k := by
  constructor
  · intro h
    exact ⟨mem_of_find?_eq_some h, by simpa using find?_some h⟩
  · rintro ⟨ha, rfl⟩
    obtain ⟨b, hb⟩ : ∃ b, l.find? (fun b => key b == key a) = some b := by
      rw [← Option.isSome_iff_exists, find?_isSome]
      exact ⟨a, ha, beq_self_eq_true _⟩
    have hkey : key b = key a := by simpa using find?_some hb
    rw [hb, inj_on_of_nodup_map hl (mem_of_find?_eq_some hb) ha hkey]

end List

namespace IsaNames

variable {ε : Type}

namespace Directory

variable {dir : Directory ε} {a : Architecture}

/-- How an architecture of a directory is found. -/
structure Finds (dir : Directory ε) (a : Architecture) : Prop where
  /-- It is found by the spellings whose key is its name, and by no others. -/
  architecture_iff : ∀ query, dir.architecture query = .ok a ↔ Text.key true query = a.name
  /-- These lead to its names of registers. -/
  registerId_eq : ∀ query, Text.key true query = a.name →
    ∀ name, dir.registerId query name = a.registers.idOf name
  /-- They lead to its mnemonics, too. -/
  opcodeId_eq : ∀ query, Text.key true query = a.name →
    ∀ name, dir.opcodeId query name = a.opcodes.idOf name
  /-- If its name is a key, it is found by it. -/
  found : Text.key true a.name = a.name → dir.architecture a.name = .ok a
  /-- Otherwise it is found by nothing. -/
  lost : Text.key true a.name ≠ a.name → ∀ query, dir.architecture query ≠ .ok a

/-- A name leads to the architecture that is named by its key, if no two have the same name. -/
theorem architecture_eq_ok_iff (hnames : dir.names.Nodup) {query : String} :
    dir.architecture query = .ok a ↔ a ∈ dir.architectures ∧ Text.key true query = a.name := by
  have hfind := List.find?_key_eq_some_iff hnames (k := Text.key true query) (a := a)
  rw [eq_comm (a := Text.key true query), ← hfind, architecture]
  cases dir.architectures.find? fun b => b.name == Text.key true query <;> simp

/-- A name leads to no architecture if none is named by its key. -/
theorem architecture_eq_error_iff {query : String} {m : Miss} :
    dir.architecture query = .error m ↔
      Text.key true query ∉ dir.names ∧ m = ⟨Miss.architecture, query⟩ := by
  unfold architecture
  constructor
  · intro h
    split at h
    · cases h
    · next hnone =>
      cases h
      rw [List.find?_eq_none] at hnone
      refine ⟨fun hmem => ?_, rfl⟩
      obtain ⟨b, hb, hname⟩ := List.mem_map.mp hmem
      exact hnone b hb (beq_iff_eq.mpr hname)
  · rintro ⟨hmem, rfl⟩
    have hnone : dir.architectures.find? (fun b => b.name == Text.key true query) = none := by
      rw [List.find?_eq_none]
      intro b hb hname
      exact hmem (List.mem_map.mpr ⟨b, hb, beq_iff_eq.mp hname⟩)
    rw [hnone]

/-- How the architectures of a directory without duplicate names are found. -/
theorem finds (hnames : dir.names.Nodup) (ha : a ∈ dir.architectures) : dir.Finds a := by
  have hiff : ∀ query, dir.architecture query = .ok a ↔ Text.key true query = a.name :=
    fun query => (architecture_eq_ok_iff hnames).trans (and_iff_right ha)
  refine ⟨hiff, ?_, ?_, (hiff a.name).mpr, ?_⟩
  · intro query hquery name
    rw [registerId, (hiff query).mpr hquery]
    rfl
  · intro query hquery name
    rw [opcodeId, (hiff query).mpr hquery]
    rfl
  · -- a key is its own key, so a name that is not is no key at all
    intro hkey query hquery
    rw [hiff] at hquery
    apply hkey
    rw [← hquery, Text.key_key]

end Directory

namespace SharedSpace

/-- **A directory finds exactly the architectures that are named by keys**: each of these by the
spellings with that key, and the others, although they are listed, by nothing. -/
theorem directory_finds_keys {s : SharedSpace ε} (hs : s.Reachable) :
    ∃ s' dir, close.Ends s s' (.ok dir) ∧ dir.architectures = s.architectures ∧ dir.names.Nodup ∧
      (∀ a ∈ dir.architectures, dir.Finds a) ∧
      ∀ query, Text.key true query ∉ dir.names →
        dir.architecture query = .error ⟨Miss.architecture, query⟩ := by
  have hnames : s.directory.names.Nodup := hs.orderly.names_nodup
  refine ⟨_, s.directory, hs.orderly.ends_close, rfl, hnames, ?_, ?_⟩
  · exact fun a ha => Directory.finds hnames ha
  · exact fun query hquery => Directory.architecture_eq_error_iff.mpr ⟨hquery, rfl⟩

/-- Two architectures whose names differ in case alone. -/
theorem directory_finds_keys_of_cases :
    ∃ s : SharedSpace Unit, s.Reachable ∧ s.architectures.map (·.name) = ["mips", "MIPS"] ∧
      ∃ s' dir, close.Ends s s' (.ok dir) ∧ dir.architectures = s.architectures ∧ dir.names.Nodup ∧
        (∀ a ∈ dir.architectures, dir.Finds a) ∧
        ∀ query, Text.key true query ∉ dir.names →
          dir.architecture query = .error ⟨Miss.architecture, query⟩ := by
  have hreach := ((reachable_initial (ε := Unit)).after
    (.register { declaration := ⟨"mips", 0, [⟨"r", 1, false⟩], [], 0, ["add"]⟩ })).after
    (.register { declaration := ⟨"MIPS", 1, [⟨"r", 1, false⟩], [], 1, ["add"]⟩ })
  exact ⟨_, hreach, rfl, directory_finds_keys hreach⟩

/-- An architecture that was registered by a name in capitals is listed but not found by it. -/
theorem listed_not_found :
    ∃ (s : SharedSpace Unit) (a : Architecture), s.Reachable ∧ s.architectures = [a] ∧
      a.name = "MIPS" ∧ ∃ s' dir, close.Ends s s' (.ok dir) ∧ dir.names = ["MIPS"] ∧
        dir.architecture "MIPS" = .error ⟨Miss.architecture, "MIPS"⟩ := by
  have hreach := (reachable_initial (ε := Unit)).after
    (.register { declaration := ⟨"MIPS", 0, [⟨"r", 1, false⟩], [], 0, ["add"]⟩ })
  refine ⟨_, _, hreach, rfl, rfl, _, _, hreach.orderly.ends_close, rfl, ?_⟩
  rw [Directory.architecture_eq_error_iff]
  refine ⟨?_, rfl⟩
  decide +kernel

end SharedSpace

end IsaNames
