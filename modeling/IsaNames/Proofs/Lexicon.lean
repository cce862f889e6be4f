import IsaNames.Lexicon.Draft
import IsaNames.Proofs.Key
import IsaNames.Proofs.Outcome
import Mathlib.Data.List.Nodup

/-!
# What the writes to a draft do

A write to a draft either is refused or adds at most one row at the end of the entries or of the
displays.  When it is refused and what it adds is said once for each write; everything about whole
runs of writes follows from that.

## Main definitions

* `Lexicon.Sound` — the invariant of the lexicons that are written through drafts.
* `Draft.addEntries`, `Draft.addDisplays` — a draft with more rows.
* `Draft.Ready d first` — the IDs from `first` on are fresh in the draft.
* `FlawCause.numbers` — the integers that a flaw speaks of.
* `Flaw.FoundIn P` — a flaw that building can find, with integers that satisfy `P` only.

## Main results

* `Draft.assign_eq_ok_iff`, `Draft.link_eq_ok_iff`, `Draft.setDisplay_eq_ok_iff` — when a write is
  accepted, and what it leaves.
* `Draft.declare_eq_of_fresh` — a declaration is refused only for its name.
* `Lexicon.Sound.assign`, `Lexicon.Sound.setDisplay` — **accepted writes keep a lexicon sound.**
* `Draft.assign_error`, `Draft.link_error` — what a refused write complains about.
-/

namespace List

variable {α β : Type} [BEq α] [LawfulBEq α]

/-- In a list of rows with different keys a row is found under its key. -/
theorem lookup_eq_some_iff_mem {l : List (α × β)} (hl : (l.map (·.1)).Nodup) {k : α} {v : β} :
    l.lookup k = some v ↔ (k, v) ∈ l := by
  induction l with
  | nil => simp
  | cons e rest ih =>
    obtain ⟨k', v'⟩ := e
    rw [map_cons, nodup_cons] at hl
    rw [lookup_cons, mem_cons]
    by_cases hk : k = k'
    · subst hk
      simp only [beq_self_eq_true, Option.some.injEq, Prod.mk.injEq, true_and]
      constructor
      · rintro rfl
        exact Or.inl rfl
      · rintro (rfl | hmem)
        · rfl
        · exact absurd (mem_map_of_mem (f := (·.1)) hmem) hl.1
    · have hbeq : (k == k') = false := beq_false_of_ne hk
      simp only [hbeq, ih hl.2, Prod.mk.injEq, hk, false_and, false_or]

/-- A key is found exactly if there is a row under it. -/
theorem lookup_eq_none_iff_notMem {l : List (α × β)} {k : α} :
    l.lookup k = none ↔ k ∉ l.map (·.1) := by
  rw [lookup_eq_none_iff]
  constructor
  · intro h hk
    obtain ⟨e, he, rfl⟩ := mem_map.mp hk
    simpa using h e he
  · intro h e he
    rw [bne_iff_ne]
    rintro rfl
    exact h (mem_map_of_mem he)

/-- Rows that were sorted by their IDs are in the order of these. -/
theorem pairwise_mergeSort_fst {γ : Type} (l : List (Int × γ)) :
    (l.mergeSort fun a b => a.1 ≤ b.1).Pairwise fun a b => a.1 ≤ b.1 := by
  have h : (l.mergeSort fun a b => a.1 ≤ b.1).Pairwise fun a b => decide (a.1 ≤ b.1) = true := by
    apply pairwise_mergeSort
    · intro a b c hab hbc
      simp only [decide_eq_true_eq] at *
      omega
    · intro a b
      simp only [Bool.or_eq_true, decide_eq_true_eq]
      omega
  simpa using h

end List

namespace IsaNames

/-! ### Lexicons -/

namespace Lexicon

/-- What holds of every lexicon that is written through drafts: each key is there once and is not
empty, and each ID that is shown by a name is shown by one, without surrounding blanks, that stands
for it. -/
structure Sound (x : Lexicon) : Prop where
  key_ne_empty : ∀ e ∈ x.entries, e.1 ≠ ""
  names_nodup : x.names.Nodup
  ids_nodup : (x.displays.map (·.1)).Nodup
  display_stripped : ∀ e ∈ x.displays, Text.stripped e.2 = e.2
  idOf?_display : ∀ e ∈ x.displays, x.idOf? e.2 = some e.1

theorem key_stripped (x : Lexicon) (name : String) : x.key (Text.stripped name) = x.key name :=
  Text.key_stripped _ _

theorem idOf?_stripped (x : Lexicon) (name : String) :
    x.idOf? (Text.stripped name) = x.idOf? name := by
  rw [idOf?, key_stripped, idOf?]

theorem idOf?_eq_none_iff {x : Lexicon} {name : String} :
    x.idOf? name = none ↔ x.key name ∉ x.names :=
  List.lookup_eq_none_iff_notMem

theorem display?_eq_none_iff {x : Lexicon} {id : Int} :
    x.display? id = none ↔ id ∉ x.displays.map (·.1) :=
  List.lookup_eq_none_iff_notMem

/-- A name that is known has an entry under its key. -/
theorem mem_entries_of_idOf? {x : Lexicon} {name : String} {id : Int}
    (h : x.idOf? name = some id) : (x.key name, id) ∈ x.entries := by
  obtain ⟨l₁, l₂, he, -⟩ := List.lookup_eq_some_iff.mp h
  rw [he]
  simp

theorem Sound.idOf?_eq_some_iff {x : Lexicon} (hx : x.Sound) {name : String} {id : Int} :
    x.idOf? name = some id ↔ (x.key name, id) ∈ x.entries :=
  List.lookup_eq_some_iff_mem hx.names_nodup

theorem Sound.display?_eq_some_iff {x : Lexicon} (hx : x.Sound) {name : String} {id : Int} :
    x.display? id = some name ↔ (id, name) ∈ x.displays :=
  List.lookup_eq_some_iff_mem hx.ids_nodup

theorem hasDisplay_iff {x : Lexicon} {id : Int} :
    x.hasDisplay id = true ↔ id ∈ x.displays.map (·.1) := by
  rw [hasDisplay, Option.isSome_iff_ne_none, Ne, display?_eq_none_iff, Decidable.not_not]

/-- The other names of an ID are the keys that stand for it, but for the one of the name shown. -/
theorem mem_aliases_iff {x : Lexicon} {k : String} {id : Int} :
    k ∈ x.aliases id ↔ (k, id) ∈ x.entries ∧ some k ≠ (x.display? id).map x.key := by
  simp [aliases]

theorem aliases_sublist (x : Lexicon) (id : Int) : (x.aliases id).Sublist x.names :=
  List.filter_sublist.map _

/-- The key of a name that an ID is shown by has an entry for it. -/
theorem Sound.mem_entries_of_display? {x : Lexicon} (hx : x.Sound) {id : Int} {name : String}
    (h : x.display? id = some name) : (x.key name, id) ∈ x.entries :=
  mem_entries_of_idOf? (hx.idOf?_display (id, name) (hx.display?_eq_some_iff.mp h))

/-- **Round trip**: the name that an ID is shown by can be written and stands for it. -/
theorem Sound.idOf_display {x : Lexicon} (hx : x.Sound) {id : Int} (h : x.hasDisplay id = true) :
    ∃ text, (x.display id).write? = some text ∧ x.idOf text = .ok id := by
  obtain ⟨name, hname⟩ := Option.isSome_iff_exists.mp h
  have hid : x.idOf? name = some id := hx.idOf?_display (id, name) (hx.display?_eq_some_iff.mp hname)
  refine ⟨name, ?_, idOf_eq_ok_iff.mpr hid⟩
  rw [display, hname]
  rfl

/-! ### Drafts -/

namespace Draft

/-- The draft with more entries. -/
def addEntries (d : Draft) (entries : List (String × Int)) : Draft :=
  { d with content.entries := d.content.entries ++ entries }

/-- The draft with more displays. -/
def addDisplays (d : Draft) (displays : List (Int × String)) : Draft :=
  { d with content.displays := d.content.displays ++ displays }

section AddRows

variable (d : Draft) (entries : List (String × Int)) (displays : List (Int × String))

@[simp] theorem entries_addEntries :
    (d.addEntries entries).content.entries = d.content.entries ++ entries := rfl

@[simp] theorem displays_addEntries :
    (d.addEntries entries).content.displays = d.content.displays := rfl

@[simp] theorem displays_addDisplays :
    (d.addDisplays displays).content.displays = d.content.displays ++ displays := rfl

@[simp] theorem key_addEntries : (d.addEntries entries).content.key = d.content.key := rfl

@[simp] theorem names_addEntries :
    (d.addEntries entries).content.names = d.content.names ++ entries.map (·.1) := by
  simp [names]

@[simp] theorem names_addDisplays :
    (d.addDisplays displays).content.names = d.content.names := rfl

@[simp] theorem addEntries_nil : d.addEntries [] = d := by simp [addEntries]

@[simp] theorem addDisplays_nil : d.addDisplays [] = d := by simp [addDisplays]

theorem addEntries_addEntries (entries' : List (String × Int)) :
    (d.addEntries entries).addEntries entries' = d.addEntries (entries ++ entries') := by
  simp [addEntries]

theorem addDisplays_addDisplays (displays' : List (Int × String)) :
    (d.addDisplays displays).addDisplays displays' = d.addDisplays (displays ++ displays') := by
  simp [addDisplays]

/-- A name that is known stays known when entries are added. -/
theorem idOf?_addEntries_of_some {d : Draft} {name : String} {id : Int}
    (h : d.content.idOf? name = some id) (entries : List (String × Int)) :
    (d.addEntries entries).content.idOf? name = some id :=
  (List.prefix_append d.content.entries entries).lookup_eq_some h

theorem idOf?_addDisplays (name : String) :
    (d.addDisplays displays).content.idOf? name = d.content.idOf? name := rfl

end AddRows

/-! #### Accepted writes -/

/-- A name is accepted for an ID if it is not blank and stands for nothing else; if it stands for
nothing yet, an entry is added. -/
theorem assign_eq_ok_iff {d d' : Draft} {name : String} {id : Int} :
    d.assign name id = .ok d' ↔ d.isClosed = false ∧ d.content.key name ≠ "" ∧
      (d.content.idOf? name = some id ∧ d' = d ∨
        d.content.idOf? name = none ∧ d' = d.addEntries [(d.content.key name, id)]) := by
  unfold assign
  dsimp only
  split
  · next hclosed => simp [hclosed]
  · next hclosed =>
    split
    · next hkey => simp [hkey]
    · next hkey =>
      simp only [Bool.not_eq_true] at hclosed
      simp only [hclosed, hkey, true_and, ne_eq, not_false_eq_true, idOf?]
      cases hold : d.content.entries.lookup (d.content.key name) with
      | none => simp [addEntries, eq_comm]
      | some old =>
        by_cases h : old = id
        · simp [h, eq_comm]
        · simp [h]

/-- An alias is accepted if what it is for is known and it is accepted for the same ID. -/
theorem link_eq_ok_iff {d d' : Draft} {name target : String} {id : Int} :
    d.link name target = .ok (d', id) ↔
      d.content.idOf? target = some id ∧ d.assign name id = .ok d' := by
  unfold link
  split
  · next hclosed =>
    have hassign : ∀ id, d.assign name id ≠ .ok d' := by
      intro id h
      rw [(assign_eq_ok_iff.mp h).1] at hclosed
      cases hclosed
    simp [hassign]
  · cases d.content.idOf? target with
    | none => simp
    | some old =>
      dsimp only
      cases hassign : d.assign name old with
      | error f =>
        simp only [Except.map, reduceCtorEq, Option.some.injEq, false_iff, not_and]
        rintro rfl
        simp [hassign]
      | ok d'' =>
        simp only [Except.map, Except.ok.injEq, Prod.mk.injEq, Option.some.injEq]
        constructor
        · rintro ⟨rfl, rfl⟩
          exact ⟨rfl, hassign⟩
        · rintro ⟨rfl, h⟩
          rw [hassign, Except.ok.injEq] at h
          exact ⟨h, rfl⟩

/-- A name is accepted to show an ID if it stands for it and the ID is shown by no other name. -/
theorem setDisplay_eq_ok_iff {d d' : Draft} {name : String} {id : Int} :
    d.setDisplay id name = .ok d' ↔ d.isClosed = false ∧ d.content.idOf? name = some id ∧
      ((∃ old, d.content.display? id = some old ∧ d.content.key old = d.content.key name) ∧ d' = d ∨
        d.content.display? id = none ∧ d' = d.addDisplays [(id, Text.stripped name)]) := by
  unfold setDisplay
  dsimp only
  rw [idOf?_stripped, key_stripped]
  split
  · next hclosed => simp [hclosed]
  · next hclosed =>
    split
    · next hid => simp [hid]
    · next hid =>
      simp only [Bool.not_eq_true] at hclosed
      simp only [ne_eq, Decidable.not_not] at hid
      simp only [hclosed, hid, true_and]
      cases d.content.display? id with
      | none => simp [addDisplays, eq_comm]
      | some old =>
        by_cases h : d.content.key old = d.content.key name
        · simp [h, eq_comm]
        · simp [h]

/-! #### Names for fresh IDs -/

/-- The draft is open, no key is there twice, and no ID from `first` on is in use. -/
structure Ready (d : Draft) (first : Int) : Prop where
  isOpen : d.isClosed = false
  names_nodup : d.content.names.Nodup
  entry_lt : ∀ e ∈ d.content.entries, e.2 < first
  display_lt : ∀ e ∈ d.content.displays, e.1 < first

/-- A draft is ready for the first ID if nothing is in it. -/
theorem ready_empty (kind fallback : String) (foldCase : Bool) (owner : Option String)
    (first : Int) : (empty kind fallback foldCase owner).Ready first where
  isOpen := rfl
  names_nodup := List.nodup_nil
  entry_lt := List.forall_mem_nil _
  display_lt := List.forall_mem_nil _

/-- What is ready for an ID is ready for any later one. -/
theorem Ready.mono {d : Draft} {first first' : Int} (hd : d.Ready first) (h : first ≤ first') :
    d.Ready first' where
  isOpen := hd.isOpen
  names_nodup := hd.names_nodup
  entry_lt := fun e he => Int.lt_of_lt_of_le (hd.entry_lt e he) h
  display_lt := fun e he => Int.lt_of_lt_of_le (hd.display_lt e he) h

/-- An ID that no name stands for yet gets any name that is not blank and not taken. -/
theorem assign_fresh_eq_ok_iff {d d' : Draft} (hopen : d.isClosed = false) {name : String} {id : Int}
    (hid : ∀ e ∈ d.content.entries, e.2 ≠ id) :
    d.assign name id = .ok d' ↔ d.content.key name ≠ "" ∧ d.content.key name ∉ d.content.names ∧
      d' = d.addEntries [(d.content.key name, id)] := by
  rw [assign_eq_ok_iff, idOf?_eq_none_iff]
  constructor
  · rintro ⟨-, hkey, ⟨hold, -⟩ | h⟩
    · exact absurd rfl (hid _ (mem_entries_of_idOf? hold))
    · exact ⟨hkey, h⟩
  · rintro ⟨hkey, h⟩
    exact ⟨hopen, hkey, Or.inr h⟩

/-- A name that was accepted stands for its ID. -/
theorem idOf?_of_assign {d d' : Draft} {name : String} {id : Int} (h : d.assign name id = .ok d') :
    d'.content.idOf? name = some id := by
  obtain ⟨-, -, ⟨hold, rfl⟩ | ⟨hnew, rfl⟩⟩ := assign_eq_ok_iff.mp h
  · exact hold
  · rw [idOf?_eq_none_iff] at hnew
    have hlookup : d.content.entries.lookup (d.content.key name) = none :=
      List.lookup_eq_none_iff_notMem.mpr hnew
    simp [idOf?, List.lookup_append, hlookup]

/-- A name that stands for an ID that is not shown yet may be made to show it. -/
theorem setDisplay_fresh {d : Draft} (hopen : d.isClosed = false) {name : String} {id : Int}
    (hname : d.content.idOf? name = some id) (hid : ∀ e ∈ d.content.displays, e.1 ≠ id) :
    d.setDisplay id name = .ok (d.addDisplays [(id, Text.stripped name)]) := by
  rw [setDisplay_eq_ok_iff, display?_eq_none_iff]
  refine ⟨hopen, hname, Or.inr ⟨?_, rfl⟩⟩
  intro hmem
  obtain ⟨e, he, rfl⟩ := List.mem_map.mp hmem
  exact hid e he rfl

/-- An ID that a name was accepted to show is shown by a name of that key. -/
theorem display?_of_setDisplay {d d' : Draft} {name : String} {id : Int}
    (h : d.setDisplay id name = .ok d') :
    ∃ shown, d'.content.display? id = some shown ∧ d.content.key shown = d.content.key name := by
  obtain ⟨-, -, ⟨hold, rfl⟩ | ⟨hnone, rfl⟩⟩ := setDisplay_eq_ok_iff.mp h
  · exact hold
  · -- the ID is shown by the name since then
    have hlookup : d.content.displays.lookup id = none := hnone
    refine ⟨Text.stripped name, ?_, key_stripped _ _⟩
    simp [display?, List.lookup_append, hlookup]

/-- Accepting a name adds at most an entry for its ID. -/
theorem assign_grows {P : Int → Prop} {d d' : Draft} {name : String} {id : Int} (hid : P id)
    (h : d.assign name id = .ok d') : ∃ rows, d' = d.addEntries rows ∧ ∀ row ∈ rows, P row.2 := by
  obtain ⟨-, -, ⟨-, rfl⟩ | ⟨-, rfl⟩⟩ := assign_eq_ok_iff.mp h
  · exact ⟨[], (addEntries_nil _).symm, List.forall_mem_nil _⟩
  · exact ⟨_, rfl, List.forall_mem_cons.mpr ⟨hid, List.forall_mem_nil _⟩⟩

/-- Accepting a name keeps the draft open and does not change what keys are. -/
theorem assign_keeps {d d' : Draft} {name : String} {id : Int} (h : d.assign name id = .ok d') :
    d'.isClosed = false ∧ d'.content.key = d.content.key := by
  obtain ⟨hopen, -, ⟨-, rfl⟩ | ⟨-, rfl⟩⟩ := assign_eq_ok_iff.mp h
  · exact ⟨hopen, rfl⟩
  · exact ⟨hopen, rfl⟩

/-- After a name was accepted it has an entry, and the others are those that were there. -/
theorem mem_entries_assign_iff {d d' : Draft} {name : String} {id : Int}
    (h : d.assign name id = .ok d') {e : String × Int} :
    e ∈ d'.content.entries ↔ e = (d.content.key name, id) ∨ e ∈ d.content.entries := by
  obtain ⟨-, -, ⟨hold, rfl⟩ | ⟨-, rfl⟩⟩ := assign_eq_ok_iff.mp h
  · constructor
    · exact Or.inr
    · rintro (rfl | he)
      · exact mem_entries_of_idOf? hold
      · exact he
  · rw [entries_addEntries, List.mem_append, List.mem_singleton]
    exact or_comm

/-- What holds of all IDs that names stand for still does after a name was accepted for such an
ID. -/
theorem forall_entries_assign {P : Int → Prop} {d d' : Draft} {name : String} {id : Int}
    (hd : ∀ e ∈ d.content.entries, P e.2) (hid : P id) (h : d.assign name id = .ok d') :
    ∀ e ∈ d'.content.entries, P e.2 := by
  intro e he
  rcases (mem_entries_assign_iff h).mp he with rfl | he
  · exact hid
  · exact hd e he

/-- A declaration for an ID that is not shown yet fails only if the name is refused. -/
theorem declare_eq_of_fresh {d : Draft} {name : String} {id : Int}
    (hid : ∀ e ∈ d.content.displays, e.1 ≠ id) :
    d.declare name id =
      (d.assign name id).map fun d' => d'.addDisplays [(id, Text.stripped name)] := by
  unfold declare
  cases h : d.assign name id with
  | error f => rfl
  | ok d' =>
    -- the name stands for the ID by now, and accepting it has shown nothing
    have hshown : d'.content.displays = d.content.displays := by
      obtain ⟨-, -, ⟨-, rfl⟩ | ⟨-, rfl⟩⟩ := assign_eq_ok_iff.mp h <;> rfl
    rw [← hshown] at hid
    exact setDisplay_fresh (assign_keeps h).1 (idOf?_of_assign h) hid

end Draft

/-! ### Sound lexicons -/

/-- A draft without names is sound. -/
theorem sound_empty (kind fallback : String) (foldCase : Bool) (owner : Option String) :
    (Draft.empty kind fallback foldCase owner).content.Sound where
  key_ne_empty := List.forall_mem_nil _
  names_nodup := List.nodup_nil
  ids_nodup := List.nodup_nil
  display_stripped := List.forall_mem_nil _
  idOf?_display := List.forall_mem_nil _

/-- **An accepted name keeps a lexicon sound.** -/
theorem Sound.assign {d d' : Draft} (hd : d.content.Sound) {name : String} {id : Int}
    (h : d.assign name id = .ok d') : d'.content.Sound := by
  obtain ⟨-, hkey, ⟨-, rfl⟩ | ⟨hnew, rfl⟩⟩ := Draft.assign_eq_ok_iff.mp h
  · exact hd
  · -- the new key is last, so what the names that are shown stand for stays the same
    rw [idOf?_eq_none_iff] at hnew
    refine ⟨?_, ?_, hd.ids_nodup, hd.display_stripped, ?_⟩
    · intro e he
      rcases List.mem_append.mp he with he | he
      · exact hd.key_ne_empty e he
      · rw [List.mem_singleton.mp he]
        exact hkey
    · rw [Draft.names_addEntries, List.map_singleton, ← List.concat_eq_append]
      exact hd.names_nodup.concat hnew
    · intro e he
      exact Draft.idOf?_addEntries_of_some (hd.idOf?_display e he) _

/-- A name is accepted for an ID exactly if it is not blank and its key is not bound to another
ID. -/
theorem Sound.exists_assign_iff {d : Draft} (hd : d.content.Sound) (hopen : d.isClosed = false)
    {name : String} {id : Int} :
    (∃ d', d.assign name id = .ok d') ↔ d.content.key name ≠ "" ∧
      ∀ old, (d.content.key name, old) ∈ d.content.entries → old = id := by
  simp only [Draft.assign_eq_ok_iff, ← hd.idOf?_eq_some_iff]
  constructor
  · rintro ⟨d', -, hkey, hcases⟩
    refine ⟨hkey, fun old hold => ?_⟩
    rcases hcases with ⟨hsame, -⟩ | ⟨hnew, -⟩
    · rw [hold, Option.some.injEq] at hsame
      exact hsame
    · rw [hold] at hnew
      cases hnew
  · rintro ⟨hkey, hfree⟩
    cases hold : d.content.idOf? name with
    | none => exact ⟨_, hopen, hkey, Or.inr ⟨rfl, rfl⟩⟩
    | some old =>
      rw [hfree old hold]
      exact ⟨_, hopen, hkey, Or.inl ⟨rfl, rfl⟩⟩

/-- **An accepted display keeps a lexicon sound.** -/
theorem Sound.setDisplay {d d' : Draft} (hd : d.content.Sound) {name : String} {id : Int}
    (h : d.setDisplay id name = .ok d') : d'.content.Sound := by
  obtain ⟨-, hname, ⟨-, rfl⟩ | ⟨hnew, rfl⟩⟩ := Draft.setDisplay_eq_ok_iff.mp h
  · exact hd
  · rw [display?_eq_none_iff] at hnew
    refine ⟨hd.key_ne_empty, hd.names_nodup, ?_, ?_, ?_⟩
    · rw [Draft.displays_addDisplays, List.map_append, List.map_singleton, ← List.concat_eq_append]
      exact hd.ids_nodup.concat hnew
    · intro e he
      rcases List.mem_append.mp he with he | he
      · exact hd.display_stripped e he
      · rw [List.mem_singleton.mp he]
        exact Text.stripped_stripped name
    · intro e he
      rw [Draft.idOf?_addDisplays]
      rcases List.mem_append.mp he with he | he
      · exact hd.idOf?_display e he
      · rw [List.mem_singleton.mp he, idOf?_stripped]
        exact hname

end Lexicon

/-! ### Refused writes -/

namespace FlawCause

/-- The integers that a flaw speaks of. -/
def numbers : FlawCause → List Int
  | closedNames .. | danglingAlias .. | otherGeneric | registeredTwice _ | closedSpace _ => []
  | emptyName _ id | strayDisplay _ id | displayTaken _ id .. => [id]
  | reassigned _ old new => [old, new]
  | unnamed _ id offset range => [id, offset, range.base, range.stop]
  | opcodesInGeneric base generic => [base, generic.base, generic.stop]
  | rangesOverlap _ new old _ => [new.base, new.stop, old.base, old.stop]

/-- Whether the flaw can be found while a declaration is built: names and ranges can be wrong, but
what is to be shown for an ID cannot. -/
def arisesInBuild : FlawCause → Bool
  | emptyName .. | reassigned .. | danglingAlias .. | unnamed .. | opcodesInGeneric .. => true
  | _ => false

/-- What a flaw says can be written if the integers that it speaks of can. -/
theorem isWritable_phrase (c : FlawCause) : c.phrase.isWritable = c.numbers.all Text.isWritable := by
  cases c <;> simp [phrase, numbers, IdRange.phrase, Bool.and_assoc]

end FlawCause

/-- A flaw that speaks of no integers can always be written. -/
theorem Flaw.fault_of_numbers_eq_nil {f : Flaw} (h : f.cause.numbers = []) : f.fault = .flaw f := by
  unfold Flaw.fault
  rw [FlawCause.isWritable_phrase, h]
  rfl

/-- A flaw that can be found while a declaration is built, and that speaks only of integers with the
property `P`. -/
structure Flaw.FoundIn (P : Int → Prop) (f : Flaw) : Prop where
  arises : f.cause.arisesInBuild = true
  numbers : ∀ n ∈ f.cause.numbers, P n

/-- A flaw ends a computation with itself unless one of the integers it speaks of is too long. -/
theorem Flaw.FoundIn.fault_cases {P : Int → Prop} {f : Flaw} (h : f.FoundIn P) :
    f.fault = .flaw f ∨ f.fault = .numberTooLong ∧ ∃ n, P n ∧ Text.isWritable n = false := by
  unfold Flaw.fault
  rw [FlawCause.isWritable_phrase]
  cases hall : f.cause.numbers.all Text.isWritable with
  | true => exact Or.inl rfl
  | false =>
    rw [List.all_eq_false] at hall
    obtain ⟨n, hn, hlong⟩ := hall
    exact Or.inr ⟨rfl, n, h.numbers n hn, by simpa using hlong⟩

namespace Lexicon.Draft

variable {P : Int → Prop} {d : Draft} {f : Flaw}

/-- A name is refused for being blank or for standing for another ID. -/
theorem assign_error (hopen : d.isClosed = false) (hd : ∀ e ∈ d.content.entries, P e.2)
    {name : String} {id : Int} (hid : P id) (h : d.assign name id = .error f) : f.FoundIn P := by
  unfold assign at h
  dsimp only at h
  rw [hopen, if_neg Bool.false_ne_true] at h
  split at h
  · cases h
    exact ⟨rfl, by simpa [flaw, FlawCause.numbers] using hid⟩
  · split at h
    · next old hold =>
      split at h
      · cases h
      · cases h
        refine ⟨rfl, ?_⟩
        have hmem := mem_entries_of_idOf? (x := d.content) hold
        simpa [flaw, FlawCause.numbers] using ⟨hd _ hmem, hid⟩
    · cases h

/-- An alias is refused for being for nothing, or as a name of the ID it is for. -/
theorem link_error (hopen : d.isClosed = false) (hd : ∀ e ∈ d.content.entries, P e.2)
    {name target : String} (h : d.link name target = .error f) : f.FoundIn P := by
  unfold link at h
  rw [hopen, if_neg Bool.false_ne_true] at h
  split at h
  · next id hid =>
    cases hassign : d.assign name id with
    | error f' =>
      rw [hassign] at h
      cases h
      exact assign_error hopen hd (hd _ (mem_entries_of_idOf? hid)) hassign
    | ok d' =>
      rw [hassign] at h
      cases h
  · cases h
    exact ⟨rfl, by simp [flaw, FlawCause.numbers]⟩

end Lexicon.Draft

end IsaNames
