import IsaNames.Proofs.Permanence
import IsaNames.Proofs.Spelling
import Mathlib.Data.List.Perm.Basic

/-!
# The order of calls does not matter

A link reads the draft, so two orders of the same calls go through different drafts, and in one of
them a name may be bound by a link that in the other one finds it bound already.  As long as all
calls are accepted, the end is the same nevertheless: a draft holds just what its calls bind, and
that can be said without any order.

## Main definitions

* `Lexicon.AgreesUpToOrder` — lexicons that differ in the order of their names and in the spelling
  of what they show only.
* `Draft.Binds` — what calls bind, in whatever order they are made.
* `Lexicon.Obeys` — a lexicon tells what a call asks for.
* `Draft.RowsFrom` — the rows of a draft come from calls.

## Main results

* `Draft.obeys_run`, `Draft.rowsFrom_run` — what was accepted holds in the end, and nothing else is
  there.
* `Draft.mem_entries_run_iff`, `Draft.mem_shownKeys_run_iff` — **a draft holds just what its calls
  bind.**
* `Draft.accepted_in_any_order` — **calls that are all accepted lead to the same lexicon in any
  order.**
-/

namespace List

variable {α β : Type} [BEq α] [LawfulBEq α]

/-- Where keys differ, the order of rows does not matter to who looks a key up. -/
theorem Perm.lookup_eq {l l' : List (α × β)} (h : l.Perm l') (hl : (l.map (·.1)).Nodup) (k : α) :
    l.lookup k = l'.lookup k := by
  have hl' : (l'.map (·.1)).Nodup := (h.map _).nodup_iff.mp hl
  ext v
  rw [lookup_eq_some_iff_mem hl, lookup_eq_some_iff_mem hl', h.mem_iff]

end List

namespace IsaNames.Lexicon

/-! ### Lexicons with the same rows in another order -/

/-- Two lexicons give the same answers, but for the order of their names and for the spelling of
what they show. -/
structure AgreesUpToOrder (x y : Lexicon) : Prop where
  key : y.key = x.key
  idOf : ∀ name, y.idOf name = x.idOf name
  contains : ∀ name, y.contains name = x.contains name
  names : y.names.Perm x.names
  size : y.size = x.size
  aliases : ∀ id, (y.aliases id).Perm (x.aliases id)
  hasDisplay : ∀ id, y.hasDisplay id = x.hasDisplay id
  display_key : ∀ id name name', x.display? id = some name → y.display? id = some name' →
    y.key name' = x.key name
  display_unnamed : ∀ id, x.hasDisplay id = false → y.display id = x.display id
  /-- The IDs with names are listed in the same order, each with a name of the same key. -/
  displayed :
    y.displayed.map (fun e => (e.1, y.key e.2)) = x.displayed.map fun e => (e.1, x.key e.2)

variable {x y : Lexicon}

/-- No ID is shown by two names. -/
theorem Sound.nodup_shownKeys (hx : x.Sound) : (x.shownKeys.map (·.1)).Nodup := by
  rw [shownKeys, List.map_map]
  exact hx.ids_nodup

/-- The IDs that are shown, in increasing order, with the keys of their names. -/
theorem map_displayed (x : Lexicon) :
    x.displayed.map (fun e => (e.1, x.key e.2)) = x.shownKeys.mergeSort fun a b => a.1 ≤ b.1 :=
  List.map_mergeSort fun _ _ _ _ => rfl

/-- Rows that are sorted by IDs are in one order only if no two of them have the same ID. -/
theorem mergeSort_eq_of_perm {l l' : List (Int × String)} (h : l.Perm l')
    (hl : (l.map (·.1)).Nodup) :
    (l.mergeSort fun a b => a.1 ≤ b.1) = l'.mergeSort fun a b => a.1 ≤ b.1 := by
  have hperm := (l.mergeSort_perm fun a b => a.1 ≤ b.1).trans
    (h.trans (l'.mergeSort_perm fun a b => a.1 ≤ b.1).symm)
  refine hperm.eq_of_pairwise ?_ l.pairwise_mergeSort_fst l'.pairwise_mergeSort_fst
  intro e e' he he' hle hge
  rw [List.mem_mergeSort] at he he'
  exact List.inj_on_of_nodup_map hl he (h.mem_iff.mpr he') (Int.le_antisymm hle hge)

/-- Sound lexicons of the same kind agree up to order if their rows do. -/
theorem Sound.agreesUpToOrder (hx : x.Sound) (hkind : y.kind = x.kind)
    (hfallback : y.fallback = x.fallback) (hkey : y.key = x.key)
    (hentries : x.entries.Perm y.entries)
    (hshown : x.shownKeys.Perm y.shownKeys) : x.AgreesUpToOrder y := by
  have hidOf? : ∀ name, y.idOf? name = x.idOf? name := by
    intro name
    rw [idOf?, hkey, idOf?]
    exact (hentries.lookup_eq hx.names_nodup _).symm
  have hdisplay : ∀ id, (y.display? id).map y.key = (x.display? id).map x.key := by
    intro id
    rw [← lookup_shownKeys, ← lookup_shownKeys]
    exact (hshown.lookup_eq hx.nodup_shownKeys id).symm
  have hhas : ∀ id, y.hasDisplay id = x.hasDisplay id := by
    intro id
    have h := congrArg Option.isSome (hdisplay id)
    rwa [Option.isSome_map, Option.isSome_map] at h
  refine ⟨hkey, ?_, ?_, (hentries.map _).symm, hentries.length_eq.symm, ?_, hhas, ?_, ?_, ?_⟩
  · intro name
    rw [idOf, hidOf?, hkind, idOf]
  · intro name
    rw [contains, hidOf?, contains]
  · intro id
    rw [aliases, aliases, hdisplay]
    exact ((hentries.filter _).map _).symm
  · intro id name name' hname hname'
    have h := hdisplay id
    rw [hname, hname'] at h
    exact Option.some.inj h
  · intro id hid
    have hid' : y.hasDisplay id = false := (hhas id).trans hid
    rw [hasDisplay, Option.isSome_eq_false_iff, Option.isNone_iff_eq_none] at hid hid'
    rw [display, display, hid, hid', hfallback]
  · rw [map_displayed, map_displayed]
    exact (mergeSort_eq_of_perm hshown hx.nodup_shownKeys).symm

/-! ### What calls ask for -/

/-- A lexicon tells what a call asks for. -/
inductive Obeys (x : Lexicon) : Draft.Call → Prop
  | assign {name : String} {id : Int} (h : x.idOf? name = some id) : Obeys x (.assign name id)
  | link {name target : String} {id : Int} (htarget : x.idOf? target = some id)
      (h : x.idOf? name = some id) : Obeys x (.link name target)
  | setDisplay {id : Int} {name shown : String} (h : x.display? id = some shown)
      (hkey : x.key shown = x.key name) : Obeys x (.setDisplay id name)
  | validate {range : IdRange} (h : ∀ id : Int, id ∈ range → x.hasDisplay id = true) :
      Obeys x (.validate range)
  | close : Obeys x .close

namespace Draft

/-- The IDs that calls bind keys to: a name that is assigned is bound to its ID, and one that is
linked to what its target is bound to. -/
inductive Binds (key : String → String) (calls : List Call) : String → Int → Prop
  | assign {name : String} {id : Int} (h : .assign name id ∈ calls) : Binds key calls (key name) id
  | link {name target : String} {id : Int} (h : .link name target ∈ calls)
      (htarget : Binds key calls (key target) id) : Binds key calls (key name) id

/-- Calls bind the same in any order. -/
theorem Binds.of_subset {key : String → String} {calls calls' : List Call} (h : calls ⊆ calls')
    {k : String} {id : Int} (hbinds : Binds key calls k id) : Binds key calls' k id := by
  induction hbinds with
  | assign hc => exact .assign (h hc)
  | link hc _ ih => exact .link (h hc) ih

/-- Who obeys the calls has what they bind. -/
theorem Binds.lookup_eq {calls : List Call} {k : String} {id : Int}
    (hbinds : Binds x.key calls k id) (hx : ∀ c ∈ calls, x.Obeys c) :
    x.entries.lookup k = some id := by
  induction hbinds with
  | assign hc =>
    cases hx _ hc with
    | assign h => exact h
  | link hc _ ih =>
    cases hx _ hc with
    | link htarget h =>
      -- the target stands for the ID that it is bound to
      cases htarget.symm.trans ih
      exact h

/-! ### What calls leave -/

/-- The rows of a draft come from the given calls. -/
structure RowsFrom (calls : List Call) (d : Draft) : Prop where
  bound : ∀ e ∈ d.content.entries, Binds d.content.key calls e.1 e.2
  shown : ∀ e ∈ d.content.displays, ∃ name, .setDisplay e.1 name ∈ calls

/-- All of the calls succeed, one after the other. -/
def AllSucceed (d : Draft) (calls : List Call) : Prop :=
  ∀ r ∈ Action.history perform d calls, r.2.isOk = true

variable {d d' e : Draft} {c : Call} {r : Reply} {calls : List Call}

/-- An accepted call is obeyed. -/
theorem Accepts.obeys (h : d.Accepts c d' r) : d'.content.Obeys c := by
  cases h with
  | assign h => exact .assign (idOf?_of_assign h)
  | link h =>
    obtain ⟨htarget, hassign⟩ := link_eq_ok_iff.mp h
    exact .link ((Step.assigned hassign).grows.idOf? htarget) (idOf?_of_assign hassign)
  | setDisplay h =>
    obtain ⟨shown, hshown, hkey⟩ := display?_of_setDisplay h
    rw [← (Step.displayed h).grows.key_eq] at hkey
    exact .setDisplay hshown hkey
  | validate h => exact .validate (requireDisplays_eq_ok_iff.mp h)
  | close => exact .close

/-- What is obeyed once is obeyed from then on. -/
theorem Grows.obeys (h : d.Grows e) (hc : d.content.Obeys c) : e.content.Obeys c := by
  cases hc with
  | assign hid => exact .assign (h.idOf? hid)
  | link htarget hid => exact .link (h.idOf? htarget) (h.idOf? hid)
  | setDisplay hshown hkey =>
    refine .setDisplay (h.display? hshown) ?_
    rw [h.key_eq]
    exact hkey
  | validate hall => exact .validate fun id hid => h.hasDisplay (hall id hid)
  | close => exact .close

/-- An accepted call adds only rows that it asks for. -/
theorem RowsFrom.accepts (hd : d.RowsFrom calls) (hc : c ∈ calls) (h : d.Accepts c d' r) :
    d'.RowsFrom calls := by
  have hkey := h.step.grows.key_eq
  cases h with
  | @assign name id _ h =>
    obtain ⟨-, -, ⟨-, rfl⟩ | ⟨-, rfl⟩⟩ := assign_eq_ok_iff.mp h
    · exact hd
    · refine ⟨List.forall_mem_append.mpr ⟨hd.bound, ?_⟩, hd.shown⟩
      exact List.forall_mem_singleton.mpr (.assign hc)
  | @link name target id _ h =>
    obtain ⟨htarget, hassign⟩ := link_eq_ok_iff.mp h
    have hbound := hd.bound _ (mem_entries_of_idOf? htarget)
    obtain ⟨-, -, ⟨-, rfl⟩ | ⟨-, rfl⟩⟩ := assign_eq_ok_iff.mp hassign
    · exact hd
    · refine ⟨List.forall_mem_append.mpr ⟨hd.bound, ?_⟩, hd.shown⟩
      exact List.forall_mem_singleton.mpr (.link hc hbound)
  | @setDisplay id name _ h =>
    obtain ⟨-, -, ⟨-, rfl⟩ | ⟨-, rfl⟩⟩ := setDisplay_eq_ok_iff.mp h
    · exact hd
    · refine ⟨hd.bound, List.forall_mem_append.mpr ⟨hd.shown, ?_⟩⟩
      exact List.forall_mem_singleton.mpr ⟨name, hc⟩
  | validate => exact hd
  | close => exact ⟨hd.bound, hd.shown⟩

/-! ### Runs -/

/-- Calls in a row change nothing of a lexicon but its rows. -/
theorem content_run_eq (d : Draft) (calls : List Call) :
    (d.run calls).content = { d.content with
      entries := (d.run calls).content.entries
      displays := (d.run calls).content.displays } := by
  induction calls generalizing d with
  | nil => rfl
  | cons c rest ih =>
    have hrest := ih (d.after c)
    rw [(step_after d c).content_eq] at hrest
    exact hrest

/-- The rows of a draft come from the calls that led to it, and from those that its earlier rows
came from. -/
theorem rowsFrom_run {made : List Call} (hmade : made ⊆ calls) (hd : d.RowsFrom calls) :
    (d.run made).RowsFrom calls := by
  induction made generalizing d with
  | nil => exact hd
  | cons c rest ih =>
    rw [List.cons_subset] at hmade
    refine ih hmade.2 ?_
    rcases perform_cases d c with ⟨d', r, haccepts⟩ | ⟨f, hends⟩
    · rw [after, haccepts.ends.1]
      exact hd.accepts hmade.1 haccepts
    · rw [after, hends.1]
      exact hd

/-- Calls that are all accepted are all obeyed in the end. -/
theorem obeys_run (h : d.AllSucceed calls) : ∀ c ∈ calls, (d.run calls).content.Obeys c := by
  induction calls generalizing d with
  | nil => exact List.forall_mem_nil _
  | cons c rest ih =>
    unfold AllSucceed at h
    rw [Action.history_cons, List.forall_mem_cons] at h
    refine List.forall_mem_cons.mpr ⟨?_, ih h.2⟩
    rcases perform_cases d c with ⟨d', r, haccepts⟩ | ⟨f, hends⟩
    · have hafter : d.after c = d' := haccepts.ends.1
      refine (grows_run (d.after c) rest).obeys ?_
      rw [hafter]
      exact haccepts.obeys
    · rw [hends.2] at h
      cases h.1

section Empty

variable (kind fallback : String) (foldCase : Bool) (owner : Option String)

theorem sound_run (calls : List Call) :
    ((empty kind fallback foldCase owner).run calls).content.Sound :=
  ((normal_empty kind fallback foldCase owner).run calls).toSound

theorem key_run (calls : List Call) :
    ((empty kind fallback foldCase owner).run calls).content.key = Text.key foldCase :=
  (grows_run (empty kind fallback foldCase owner) calls).key_eq

theorem rowsFrom_run_empty (calls : List Call) :
    ((empty kind fallback foldCase owner).run calls).RowsFrom calls :=
  rowsFrom_run (List.Subset.refl calls) ⟨List.forall_mem_nil _, List.forall_mem_nil _⟩

variable {kind fallback foldCase owner}

/-- **The entries of a draft are just what its calls bind.** -/
theorem mem_entries_run_iff (h : (empty kind fallback foldCase owner).AllSucceed calls)
    {e : String × Int} : e ∈ ((empty kind fallback foldCase owner).run calls).content.entries ↔
      Binds (Text.key foldCase) calls e.1 e.2 := by
  have hsound := sound_run kind fallback foldCase owner calls
  have hkey := key_run kind fallback foldCase owner calls
  constructor
  · intro he
    rw [← hkey]
    exact (rowsFrom_run_empty kind fallback foldCase owner calls).bound e he
  · intro hbinds
    rw [← hkey] at hbinds
    exact (List.lookup_eq_some_iff_mem hsound.names_nodup).mp (hbinds.lookup_eq (obeys_run h))

/-- **An ID is shown by a name of some key just if a call made it so.** -/
theorem mem_shownKeys_run_iff (h : (empty kind fallback foldCase owner).AllSucceed calls)
    {e : Int × String} : e ∈ ((empty kind fallback foldCase owner).run calls).content.shownKeys ↔
      ∃ name, .setDisplay e.1 name ∈ calls ∧ e.2 = Text.key foldCase name := by
  have hsound := sound_run kind fallback foldCase owner calls
  have hkey := key_run kind fallback foldCase owner calls
  have hobeys : ∀ {id name}, .setDisplay id name ∈ calls →
      ∃ shown, (id, shown) ∈ ((empty kind fallback foldCase owner).run calls).content.displays ∧
        Text.key foldCase shown = Text.key foldCase name := by
    intro id name hc
    cases obeys_run h _ hc with
    | setDisplay hshown hsame =>
      rw [hkey] at hsame
      exact ⟨_, hsound.display?_eq_some_iff.mp hshown, hsame⟩
  rw [shownKeys, List.mem_map, hkey]
  constructor
  · rintro ⟨⟨id, shown⟩, hshown, rfl⟩
    obtain ⟨name, hc⟩ := (rowsFrom_run_empty kind fallback foldCase owner calls).shown _ hshown
    obtain ⟨shown', hshown', hsame⟩ := hobeys hc
    -- an ID is shown by one name
    cases List.inj_on_of_nodup_map hsound.ids_nodup hshown hshown' rfl
    exact ⟨name, hc, hsame⟩
  · rintro ⟨name, hc, hname⟩
    obtain ⟨shown, hshown, hsame⟩ := hobeys hc
    exact ⟨_, hshown, Prod.ext rfl (hsame.trans hname.symm)⟩

end Empty

/-- **Calls that are all accepted lead to the same lexicon in any order**, but for the order of the
names and for the spelling of what is shown. -/
theorem accepted_in_any_order {kind fallback : String} {foldCase : Bool} {owner : Option String}
    {calls calls' : List Call} (hperm : calls.Perm calls')
    (h : (empty kind fallback foldCase owner).AllSucceed calls)
    (h' : (empty kind fallback foldCase owner).AllSucceed calls') :
    ((empty kind fallback foldCase owner).run calls).content.AgreesUpToOrder
      ((empty kind fallback foldCase owner).run calls').content := by
  have hx := sound_run kind fallback foldCase owner calls
  have hy := sound_run kind fallback foldCase owner calls'
  have hentries : ((empty kind fallback foldCase owner).run calls).content.entries.Perm
      ((empty kind fallback foldCase owner).run calls').content.entries := by
    rw [List.perm_ext_iff_of_nodup (.of_map _ hx.names_nodup) (.of_map _ hy.names_nodup)]
    intro e
    rw [mem_entries_run_iff h, mem_entries_run_iff h']
    exact ⟨.of_subset hperm.subset, .of_subset hperm.symm.subset⟩
  have hshown : ((empty kind fallback foldCase owner).run calls).content.shownKeys.Perm
      ((empty kind fallback foldCase owner).run calls').content.shownKeys := by
    rw [List.perm_ext_iff_of_nodup (.of_map _ hx.nodup_shownKeys) (.of_map _ hy.nodup_shownKeys)]
    intro e
    simp only [mem_shownKeys_run_iff h, mem_shownKeys_run_iff h', hperm.mem_iff]
  refine hx.agreesUpToOrder ?_ ?_ ?_ hentries hshown
  · rw [content_run_eq, content_run_eq _ calls]
  · rw [content_run_eq, content_run_eq _ calls]
  · rw [key_run, key_run]

/-- Three names of a register, one of which is entered twice, in two orders: the names come in
another order, and the register is shown in another spelling. -/
theorem accepted_in_any_order_of_spellings :
    let d := empty "registro" "R???" true none
    let calls : List Call := [.assign "r0" 0, .link "Zero" "R0 ", .assign "zero" 0,
      .link "nil" "ZERO", .setDisplay 0 "Zero", .setDisplay 0 " zero"]
    let calls' : List Call := [.assign "zero" 0, .link "nil" "ZERO", .setDisplay 0 " zero",
      .assign "r0" 0, .link "Zero" "R0 ", .setDisplay 0 "Zero"]
    (calls.Perm calls' ∧ d.AllSucceed calls ∧ d.AllSucceed calls') ∧
      (d.run calls).content.AgreesUpToOrder (d.run calls').content ∧
      (d.run calls).content.names = ["r0", "zero", "nil"] ∧
      (d.run calls').content.names = ["zero", "nil", "r0"] ∧
      (d.run calls).content.display? 0 = some "Zero" ∧
      (d.run calls').content.display? 0 = some "zero" := by
  intro d calls calls'
  have hperm : calls.Perm calls' := by decide
  have h : d.AllSucceed calls := by
    unfold AllSucceed
    decide +kernel
  have h' : d.AllSucceed calls' := by
    unfold AllSucceed
    decide +kernel
  exact ⟨⟨hperm, h, h'⟩, accepted_in_any_order hperm h h', by decide +kernel, by decide +kernel,
    by decide +kernel, by decide +kernel⟩

end Draft

end IsaNames.Lexicon
