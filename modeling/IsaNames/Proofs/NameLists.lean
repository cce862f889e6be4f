import IsaNames.Proofs.Permanence
import IsaNames.Proofs.Snapshot

/-!
# The names of each ID

Every name of a lexicon stands for one ID.  The names of an ID are the one that it is shown by and the
others, which are listed in the order of all names; so the lists of all IDs part the names of the
lexicon.  The order of the names is that of their first use: using a name again, for an alias or to show
an ID, in whatever spelling, neither repeats it nor moves it.

## Main definitions

* `Lexicon.namesOf` — the names of an ID.
* `Lexicon.PartedByIds` — the lists of the IDs part the names.
* `Lexicon.KeepsPlaces` — names that are there stay in their places.
* `Draft.acceptedKeys` — the keys of the names that calls were accepted for, in turn.

## Main results

* `Lexicon.Normal.partedByIds` — **the names of a normal lexicon are parted by the IDs.**
* `Draft.names_run_of_names_eq_nil` — **names stand in the order of their first use.**
* `Draft.names_parted_by_ids` — both, for a draft and for what it is closed as, after any calls.
-/

namespace List

/-- What is put at the end of a list is a repetition if it is in the list. -/
theorem eraseDups_concat {α : Type} [BEq α] [LawfulBEq α] (l : List α) (a : α) :
    (l ++ [a]).eraseDups = if a ∈ l then l.eraseDups else l.eraseDups ++ [a] := by
  rw [eraseDups_append]
  by_cases ha : a ∈ l
  · simp [ha, removeAll]
  · simp [ha, removeAll, eraseDups_cons]

end List

namespace IsaNames.Lexicon

/-- The names of an ID: the other ones, and the key of the one that it is shown by. -/
def namesOf (x : Lexicon) (id : Int) : List String :=
  x.aliases id ++ ((x.display? id).map x.key).toList

/-- The lists of the IDs part the names of a lexicon. -/
structure PartedByIds (x : Lexicon) : Prop where
  /-- The names of an ID are those that stand for it, in another order. -/
  namesOf_perm : ∀ id, (x.namesOf id).Perm (x.names.filter fun k => x.idOf? k = some id)
  namesOf_nodup : ∀ id, (x.namesOf id).Nodup
  /-- All but the one that it is shown by are in the order of the names. -/
  aliases_sublist : ∀ id, (x.aliases id).Sublist x.names
  names_nodup : x.names.Nodup
  /-- Every name is in the list of one ID. -/
  existsUnique_id : ∀ k ∈ x.names, ∃! id, k ∈ x.namesOf id
  /-- The lists of different IDs in a row, if all that names stand for are among them, are the names in
  another order. -/
  flatMap_perm : ∀ ids : List Int, ids.Nodup →
    (∀ k ∈ x.names, ∀ id, x.idOf? k = some id → id ∈ ids) → (ids.flatMap x.namesOf).Perm x.names

/-- The names of `x` have the same places in `y`: they are its first ones, and the other names of an ID
are the first ones there, too, except for the one that the ID is shown by since. -/
structure KeepsPlaces (x y : Lexicon) : Prop where
  names : x.names <+: y.names
  aliases : ∀ id, ((x.aliases id).filter fun k => some k != (y.display? id).map y.key) <+:
    y.aliases id

variable {x : Lexicon}

/-! ### Lists of names -/

/-- The names of an ID are the keys of its entries. -/
theorem Sound.mem_namesOf_iff (hx : x.Sound) {k : String} {id : Int} :
    k ∈ x.namesOf id ↔ (k, id) ∈ x.entries := by
  rw [namesOf, List.mem_append, mem_aliases_iff, Option.mem_toList]
  constructor
  · rintro (⟨hk, -⟩ | hk)
    · exact hk
    · obtain ⟨name, hname, rfl⟩ := Option.map_eq_some_iff.mp hk
      exact hx.mem_entries_of_display? hname
  · intro hk
    by_cases hshown : (x.display? id).map x.key = some k
    · exact .inr hshown
    · exact .inl ⟨hk, Ne.symm hshown⟩

theorem Sound.nodup_namesOf (hx : x.Sound) (id : Int) : (x.namesOf id).Nodup := by
  refine List.Nodup.append (hx.names_nodup.sublist (aliases_sublist x id)) ?_ ?_
  · cases (x.display? id).map x.key with
    | none => exact List.nodup_nil
    | some k => exact List.nodup_singleton k
  · -- the key of the name that is shown is left out of the others
    intro k hk hshown
    rw [Option.mem_toList] at hshown
    exact (mem_aliases_iff.mp hk).2 hshown.symm

/-- A name stands for one ID only. -/
theorem Sound.eq_of_mem_namesOf (hx : x.Sound) {k : String} {id id' : Int} (h : k ∈ x.namesOf id)
    (h' : k ∈ x.namesOf id') : id = id' := by
  rw [hx.mem_namesOf_iff] at h h'
  exact congrArg Prod.snd (List.inj_on_of_nodup_map hx.names_nodup h h' rfl)

theorem Normal.mem_entries_iff (hx : x.Normal) {k : String} {id : Int} :
    (k, id) ∈ x.entries ↔ k ∈ x.names ∧ x.idOf? k = some id := by
  constructor
  · intro h
    have hk : k ∈ x.names := List.mem_map.mpr ⟨(k, id), h, rfl⟩
    exact ⟨hk, hx.idOf?_of_mem (e := (k, id)) h⟩
  · rintro ⟨hk, hid⟩
    obtain ⟨e, he, rfl⟩ := List.mem_map.mp hk
    rw [hx.idOf?_of_mem he, Option.some.injEq] at hid
    rwa [← hid]

/-- Different IDs have no names in common. -/
theorem Sound.nodup_flatMap_namesOf (hx : x.Sound) {ids : List Int} (hids : ids.Nodup) :
    (ids.flatMap x.namesOf).Nodup := by
  rw [List.nodup_flatMap]
  refine ⟨fun id _ => hx.nodup_namesOf id, hids.imp fun hne => ?_⟩
  intro k hk hk'
  exact hne (hx.eq_of_mem_namesOf hk hk')

/-- **The names of a normal lexicon are parted by the IDs.** -/
theorem Normal.partedByIds (hx : x.Normal) : x.PartedByIds where
  namesOf_perm := by
    intro id
    rw [List.perm_ext_iff_of_nodup (hx.nodup_namesOf id) (hx.names_nodup.filter _)]
    intro k
    rw [hx.mem_namesOf_iff, hx.mem_entries_iff, List.mem_filter, decide_eq_true_eq]
  namesOf_nodup := hx.nodup_namesOf
  aliases_sublist := aliases_sublist x
  names_nodup := hx.names_nodup
  existsUnique_id := by
    intro k hk
    obtain ⟨e, he, rfl⟩ := List.mem_map.mp hk
    exact ⟨e.2, hx.mem_namesOf_iff.mpr he, fun id hid =>
      hx.eq_of_mem_namesOf hid (hx.mem_namesOf_iff.mpr he)⟩
  flatMap_perm := by
    intro ids hids hall
    rw [List.perm_ext_iff_of_nodup (hx.nodup_flatMap_namesOf hids) hx.names_nodup]
    intro k
    rw [List.mem_flatMap]
    constructor
    · rintro ⟨id, -, hk⟩
      exact (hx.mem_entries_iff.mp (hx.mem_namesOf_iff.mp hk)).1
    · intro hk
      obtain ⟨e, he, rfl⟩ := List.mem_map.mp hk
      exact ⟨e.2, hall e.1 hk e.2 (hx.idOf?_of_mem he), hx.mem_namesOf_iff.mpr he⟩

namespace Draft

variable {d e : Draft}

/-! ### Places of names -/

/-- What a draft gains leaves the names in their places. -/
theorem Grows.keepsPlaces (h : d.Grows e) : d.content.KeepsPlaces e.content where
  names := h.entries.map _
  aliases := by
    intro id
    obtain ⟨more, hmore⟩ := h.entries
    -- a name that is shown before is shown after
    have hshown : ∀ k, some k ≠ (e.content.display? id).map e.content.key →
        some k ≠ (d.content.display? id).map d.content.key := by
      intro k hne heq
      obtain ⟨name, hname, hk⟩ := Option.map_eq_some_iff.mp heq.symm
      rw [h.display? hname, h.key_eq] at hne
      exact hne (congrArg some hk.symm)
    have haliases : ((d.content.aliases id).filter fun k =>
        some k != (e.content.display? id).map e.content.key) =
          (d.content.entries.filter fun entry => entry.2 == id &&
            some entry.1 != (e.content.display? id).map e.content.key).map (·.1) := by
      rw [aliases, List.filter_map, List.filter_filter]
      refine congrArg _ (List.filter_congr fun entry _ => ?_)
      rw [Bool.eq_iff_iff]
      simp only [Function.comp_apply, Bool.and_eq_true, bne_iff_ne]
      constructor
      · rintro ⟨hne, hid, -⟩
        exact ⟨hid, hne⟩
      · rintro ⟨hid, hne⟩
        exact ⟨hne, hid, hshown _ hne⟩
    rw [haliases, aliases, ← hmore, List.filter_append, List.map_append]
    exact List.prefix_append _ _

/-! ### The order of the names -/

/-- The name that a call is to put in, if it is such a call. -/
def Call.name? : Call → Option String
  | .assign name _ | .link name _ => some name
  | .setDisplay .. | .validate _ | .close => none

/-- The key of the name that a call puts in if it succeeds. -/
def acceptedKey? (key : String → String) : Call × Except Fault Reply → Option String
  | (c, .ok _) => c.name?.map key
  | (_, .error _) => none

/-- The keys of the names that calls were accepted for, in turn. -/
def acceptedKeys (d : Draft) (calls : List Call) : List String :=
  (Action.history perform d calls).filterMap (acceptedKey? d.content.key)

/-- A name that is assigned stands at the end, unless it is there already. -/
theorem names_of_assign {d' : Draft} {name : String} {id : Int} (h : d.assign name id = .ok d') :
    d'.content.names = if d.content.key name ∈ d.content.names then d.content.names
      else d.content.names ++ [d.content.key name] := by
  obtain ⟨-, -, ⟨hold, hsame⟩ | ⟨hnew, hrow⟩⟩ := assign_eq_ok_iff.mp h
  · have hmem : d.content.key name ∈ d.content.names :=
      List.mem_map_of_mem (f := (·.1)) (mem_entries_of_idOf? hold)
    rw [hsame, if_pos hmem]
  · rw [hrow, if_neg (idOf?_eq_none_iff.mp hnew), names_addEntries]
    rfl

/-- So does the name of a call that is accepted. -/
theorem names_after_of_accepts {d' : Draft} {c : Call} {r : Reply} {name : String}
    (h : d.Accepts c d' r) (hname : c.name? = some name) :
    d'.content.names = if d.content.key name ∈ d.content.names then d.content.names
      else d.content.names ++ [d.content.key name] := by
  cases h with
  | assign h =>
    cases hname
    exact names_of_assign h
  | link h =>
    cases hname
    exact names_of_assign (link_eq_ok_iff.mp h).2
  | setDisplay | validate | close => cases hname

/-- Other calls leave the names alone. -/
theorem names_after_of_name?_eq_none {d' : Draft} {c : Call} {r : Reply} (h : d.Accepts c d' r)
    (hname : c.name? = none) : d'.content.names = d.content.names := by
  cases h with
  | assign | link => cases hname
  | setDisplay h =>
    obtain ⟨-, -, ⟨-, rfl⟩ | ⟨-, rfl⟩⟩ := setDisplay_eq_ok_iff.mp h
    · rfl
    · exact names_addDisplays _ _
  | validate | close => rfl

/-- The last call adds the key of its name, if it is accepted. -/
theorem acceptedKeys_concat (d : Draft) (calls : List Call) (c : Call) :
    d.acceptedKeys (calls ++ [c]) = d.acceptedKeys calls ++
      (acceptedKey? d.content.key (c, (perform c (d.run calls)).2.outcome)).toList := by
  have hstate : Action.afterAll perform d calls = d.run calls := rfl
  rw [acceptedKeys, Action.history_append, List.filterMap_append, hstate, Action.history_cons,
    Action.history_nil, ← acceptedKeys]
  cases hkey : acceptedKey? d.content.key (c, (perform c (d.run calls)).2.outcome) with
  | none => rw [List.filterMap_cons_none hkey, List.filterMap_nil, Option.toList_none]
  | some k => rw [List.filterMap_cons_some hkey, List.filterMap_nil, Option.toList_some]

/-- **Names stand in the order of their first use.**  A name that is used again is neither repeated nor
moved, in whatever spelling, and a call that is refused puts in none. -/
theorem names_run_of_names_eq_nil (hd : d.content.names = []) (calls : List Call) :
    (d.run calls).content.names = (d.acceptedKeys calls).eraseDups := by
  -- the induction is on the calls from the last one, since the others decide what it finds
  induction calls using List.reverseRecOn with
  | nil => exact hd
  | append_singleton calls c ih =>
    have hrun : d.run (calls ++ [c]) = (d.run calls).after c := List.foldl_append
    rw [hrun]
    rcases perform_cases (d.run calls) c with ⟨d', r, h⟩ | ⟨e, h⟩
    · have hafter : (d.run calls).after c = d' := h.ends.1
      rw [hafter, acceptedKeys_concat, h.ends.2, acceptedKey?]
      cases hname : c.name? with
      | none =>
        rw [names_after_of_name?_eq_none h hname, ih, Option.map_none, Option.toList_none,
          List.append_nil]
      | some name =>
        rw [names_after_of_accepts h hname, (grows_run d calls).key_eq, ih, Option.map_some,
          Option.toList_some, List.eraseDups_concat]
        simp only [List.mem_eraseDups]
    · have hafter : (d.run calls).after c = d.run calls := h.1
      rw [hafter, acceptedKeys_concat, h.2, ih, acceptedKey?, Option.toList_none, List.append_nil]

/-- **The names of a draft are parted by the IDs, in the order of their first use**, after any calls,
and what the draft is closed as has the same names in the same lists.  Later calls leave the names in
their places. -/
theorem names_parted_by_ids (kind fallback : String) (foldCase : Bool) (owner : Option String)
    (calls : List Call) :
    let start := empty kind fallback foldCase owner
    let d := start.run calls
    d.closed = d.content ∧ d.content.PartedByIds ∧
      d.content.names = (start.acceptedKeys calls).eraseDups ∧
      ∀ later, d.content.KeepsPlaces (d.run later).content := by
  intro start d
  have hnormal : d.content.Normal := (normal_empty kind fallback foldCase owner).run calls
  have hclosed : d.ClosedAsIs := closedAsIs_run (closedAsIs_of_isOpen rfl) calls
  exact ⟨hclosed.closed_eq, hnormal.partedByIds, names_run_of_names_eq_nil rfl calls,
    fun later => (grows_run d later).keepsPlaces⟩

end Draft

end IsaNames.Lexicon
