import IsaNames.Proofs.Lexicon
import IsaNames.Proofs.LowerCase

/-!
# Runs of calls on a draft

Whatever calls are made on a draft, in whatever order and whether or not they are refused, its two
tables fit together.  What a call can do is said once, in `Draft.Step`; the rest follows from it by
induction on the calls.  Why a call can be refused is said in `Draft.Refuses`, in the order in which it
is checked; a call that is not refused for one of these reasons is accepted.

## Main definitions

* `Lexicon.Normal` — the invariant: a sound lexicon whose keys are in normal form.
* `Lexicon.Consistent` — what the invariant comes to for those who ask.
* `Draft.after`, `Draft.run` — the draft after a call and after several in a row.
* `Draft.Step` — what a call can do.
* `Draft.Accepts` — what a call that is accepted leaves and answers.
* `Draft.Refuses` — which calls are refused, and for what.

## Main results

* `Draft.accepts_or_refuses`, `Draft.Refuses.ends` — **a call is accepted, or it is refused, ends with
  its flaw and leaves the draft as it was.**
* `Draft.ends_perform_ok_iff` — a call succeeds exactly if it is accepted.
* `Draft.step_after` — every call does what `Step` says.
* `Lexicon.Normal.run` — **calls keep a lexicon normal.**
* `Draft.consistent_run` — **the two tables of a draft fit together after any calls.**
-/

namespace IsaNames.Lexicon

/-! ### The invariant -/

/-- A sound lexicon whose keys are in normal form. -/
structure Normal (x : Lexicon) : Prop extends x.Sound where
  key_key : ∀ e ∈ x.entries, x.key e.1 = e.1

variable {x : Lexicon}

/-- A name is known exactly if it stands for an ID. -/
theorem contains_iff {name : String} : x.contains name = true ↔ ∃ id, x.idOf name = .ok id := by
  simp only [contains, Option.isSome_iff_exists, idOf_eq_ok_iff]

/-- A name that stands for something is not empty. -/
theorem Sound.name_ne_empty (hx : x.Sound) {name : String} {id : Int}
    (h : x.idOf? name = some id) : name ≠ "" := by
  rintro rfl
  have hkey : x.key "" = "" := by
    rw [key, Text.key_eq_empty_iff]
    exact List.forall_mem_nil _
  have hmem := mem_entries_of_idOf? h
  rw [hkey] at hmem
  exact hx.key_ne_empty _ hmem rfl

/-- Names with the same key that show IDs show the same ID. -/
theorem Sound.eq_of_display_key (hx : x.Sound) {e e' : Int × String} (he : e ∈ x.displays)
    (he' : e' ∈ x.displays) (hkey : x.key e.2 = x.key e'.2) : e.1 = e'.1 := by
  have hid := hx.idOf?_display e he
  rw [idOf?, hkey] at hid
  exact Option.some.inj (hid.symm.trans (hx.idOf?_display e' he'))

/-- A key in normal form stands for the ID of its entry. -/
theorem Normal.idOf?_of_mem (hx : x.Normal) {e : String × Int} (he : e ∈ x.entries) :
    x.idOf? e.1 = some e.2 := by
  rw [hx.idOf?_eq_some_iff, hx.key_key e he]
  exact he

/-- So it is known as a name. -/
theorem Normal.contains_of_mem_names (hx : x.Normal) {k : String} (hk : k ∈ x.names) :
    x.contains k = true := by
  obtain ⟨e, he, rfl⟩ := List.mem_map.mp hk
  rw [contains, hx.idOf?_of_mem he]
  rfl

/-- What holds of a lexicon for those who ask it. -/
structure Consistent (x : Lexicon) : Prop where
  /-- A key is not empty and is its own key. -/
  key_normal : ∀ k ∈ x.names, k ≠ "" ∧ x.key k = k
  /-- A name that an ID is shown by has no surrounding blanks, is not empty, and its key is that of
  the ID. -/
  display_normal : ∀ e ∈ x.displays,
    Text.stripped e.2 = e.2 ∧ e.2 ≠ "" ∧ x.entries.lookup (x.key e.2) = some e.1
  /-- What an ID with a name is shown by stands for that ID. -/
  idOf_display : ∀ id, x.hasDisplay id = true →
    ∃ text, (x.display id).write? = some text ∧ x.idOf text = .ok id
  /-- Different IDs are shown by names with different keys. -/
  display_key_ne : ∀ id id' name name', x.display? id = some name → x.display? id' = some name' →
    id ≠ id' → x.key name ≠ x.key name'
  contains_iff : ∀ name, x.contains name = true ↔ ∃ id, x.idOf name = .ok id
  contains_names : ∀ k ∈ x.names, x.contains k = true
  names_nodup : x.names.Nodup
  size_eq : x.size = x.names.length

/-- A normal lexicon is consistent. -/
theorem Normal.consistent (hx : x.Normal) : x.Consistent where
  key_normal := by
    intro k hk
    obtain ⟨e, he, rfl⟩ := List.mem_map.mp hk
    exact ⟨hx.key_ne_empty e he, hx.key_key e he⟩
  display_normal := by
    intro e he
    have hid := hx.idOf?_display e he
    exact ⟨hx.display_stripped e he, hx.name_ne_empty hid, hid⟩
  idOf_display := fun id h => hx.idOf_display h
  display_key_ne := by
    intro id id' name name' hname hname' hne hkey
    rw [hx.display?_eq_some_iff] at hname hname'
    exact hne (hx.eq_of_display_key hname hname' hkey)
  contains_iff := fun _ => Lexicon.contains_iff
  contains_names := fun _ hk => hx.contains_of_mem_names hk
  names_nodup := hx.names_nodup
  size_eq := by rw [size, names, List.length_map]

namespace Draft

/-! ### What a call can do -/

/-- The draft after a call, whether or not the call is refused. -/
def after (d : Draft) (c : Call) : Draft := (perform c d).1

/-- The draft after calls in a row. -/
def run (d : Draft) (calls : List Call) : Draft := calls.foldl after d

/-- What a call can do to a draft. -/
inductive Step (d : Draft) : Draft → Prop
  /-- The call is refused, or it writes nothing. -/
  | same : Step d d
  /-- A name is made to stand for an ID. -/
  | assigned {d' : Draft} {name : String} {id : Int} (h : d.assign name id = .ok d') : Step d d'
  /-- An ID is made to be shown by a name. -/
  | displayed {d' : Draft} {name : String} {id : Int} (h : d.setDisplay id name = .ok d') :
      Step d d'
  /-- The writing ends. -/
  | closed : Step d d.close

/-- What an accepted call leaves and what it answers. -/
inductive Accepts (d : Draft) : Call → Draft → Reply → Prop
  | assign {name : String} {id : Int} {d' : Draft} (h : d.assign name id = .ok d') :
      Accepts d (.assign name id) d' .done
  | link {name target : String} {id : Int} {d' : Draft} (h : d.link name target = .ok (d', id)) :
      Accepts d (.link name target) d' (.id id)
  | setDisplay {id : Int} {name : String} {d' : Draft} (h : d.setDisplay id name = .ok d') :
      Accepts d (.setDisplay id name) d' .done
  | validate {range : IdRange} (h : d.requireDisplays range = .ok ()) :
      Accepts d (.validate range) d .done
  | close : Accepts d .close d.close (.closed d.closed)

/-- The write that a call is, if it is one. -/
def Call.write? : Call → Option NameWrite
  | .assign .. => some .assign
  | .link .. => some .link
  | .setDisplay .. => some .display
  | .validate _ | .close => none

/-- A call is refused, and what is wrong with it. -/
inductive Refuses (d : Draft) : Call → FlawCause → Prop
  /-- The writing has ended. -/
  | closed {c : Call} {write : NameWrite} (hclosed : d.isClosed = true)
      (hwrite : c.write? = some write) : Refuses d c (.closedNames d.content.kind write)
  /-- The name is blank. -/
  | blank {name : String} {id : Int} (hopen : d.isClosed = false) (hkey : d.content.key name = "") :
      Refuses d (.assign name id) (.emptyName d.content.kind id)
  /-- The name stands for another ID. -/
  | bound {name : String} {id old : Int} (hopen : d.isClosed = false)
      (hkey : d.content.key name ≠ "") (hold : d.content.idOf? name = some old) (hne : old ≠ id) :
      Refuses d (.assign name id) (.reassigned (d.content.key name) old id)
  /-- What the alias is for stands for nothing. -/
  | dangling {name target : String} (hopen : d.isClosed = false)
      (htarget : d.content.idOf? target = none) : Refuses d (.link name target)
        (.danglingAlias (d.content.key name) (d.content.key target))
  /-- The alias is refused as a name of the ID it is for. -/
  | linked {name target : String} {id : Int} {cause : FlawCause} (hopen : d.isClosed = false)
      (htarget : d.content.idOf? target = some id) (hassign : Refuses d (.assign name id) cause) :
      Refuses d (.link name target) cause
  /-- The name to be shown does not stand for the ID. -/
  | stray {name : String} {id : Int} (hopen : d.isClosed = false)
      (hid : d.content.idOf? name ≠ some id) :
      Refuses d (.setDisplay id name) (.strayDisplay (Text.stripped name) id)
  /-- The ID is shown by another name. -/
  | taken {name old : String} {id : Int} (hopen : d.isClosed = false)
      (hid : d.content.idOf? name = some id) (hold : d.content.display? id = some old)
      (hne : d.content.key old ≠ d.content.key name) :
      Refuses d (.setDisplay id name) (.displayTaken d.content.kind id old (Text.stripped name))
  /-- An ID of the range is shown by no name. -/
  | incomplete {range : IdRange} {id : Int}
      (hid : d.content.firstUnnamed? range.size range.base = some id) :
      Refuses d (.validate range) (.unnamed d.content.kind id (id - range.base) range)

section Write

variable (write : Draft → Except Flaw Draft) {d : Draft}

theorem ends_write_ok {d' : Draft} (h : write d = .ok d') (reply : Reply) :
    (do
      Action.replace fun d => Traced.flawed (write d)
      return reply : Action Draft Reply).Ends d d' (.ok reply) := by
  have houtcome : (Traced.flawed (write d)).outcome = .ok d' := by
    rw [h]
    rfl
  have hwrite := Action.ends_replace_ok (f := fun d => Traced.flawed (write d)) houtcome
  exact hwrite.bind (Action.ends_pure _ _)

/-- A write that is refused leaves the draft as it was. -/
theorem ends_write_error {f : Flaw} (h : write d = .error f) (reply : Reply) :
    (do
      Action.replace fun d => Traced.flawed (write d)
      return reply : Action Draft Reply).Ends d d (.error f.fault) := by
  have houtcome : (Traced.flawed (write d)).outcome = .error f.fault := by
    rw [h, Traced.outcome_flawed]
    rfl
  have hwrite := Action.ends_replace_error (f := fun d => Traced.flawed (write d)) houtcome
  exact hwrite.bind_error

end Write

theorem outcome_perform_validate (d : Draft) (range : IdRange) :
    (perform (.validate range) d).2.outcome =
      ((d.requireDisplays range).mapError Flaw.fault).map fun _ => .done := by
  simp only [perform, validate, Traced.outcome_bind, Traced.outcome_flawed, Traced.outcome_note,
    Traced.outcome_pure]
  cases d.requireDisplays range <;> rfl

/-- An accepted call does what it is accepted for. -/
theorem Accepts.ends {d d' : Draft} {c : Call} {r : Reply} (h : d.Accepts c d' r) :
    (perform c).Ends d d' (.ok r) := by
  cases h with
  | assign h => exact ends_write_ok (·.assign _ _) h .done
  | link h => simp [Action.Ends, perform, h]
  | setDisplay h => exact ends_write_ok (·.setDisplay _ _) h .done
  | validate h =>
    refine ⟨rfl, ?_⟩
    rw [outcome_perform_validate, h]
    rfl
  | close => exact ⟨rfl, rfl⟩

/-! #### Refused calls -/

section Refused

variable {d : Draft} {cause : FlawCause}

theorem assign_of_refuses {name : String} {id : Int} (h : d.Refuses (.assign name id) cause) :
    d.assign name id = .error (d.flaw cause) := by
  unfold assign
  cases h with
  | closed hclosed hwrite =>
    cases hwrite
    simp only [hclosed, if_true]
    rfl
  | blank hopen hkey => simp [hopen, hkey]
  | bound hopen hkey hold hne =>
    have hlookup : d.content.entries.lookup (d.content.key name) = some _ := hold
    simp [hopen, hkey, hlookup, hne]

theorem link_of_refuses {name target : String} (h : d.Refuses (.link name target) cause) :
    d.link name target = .error (d.flaw cause) := by
  unfold link
  cases h with
  | closed hclosed hwrite =>
    cases hwrite
    simp only [hclosed, if_true]
    rfl
  | dangling hopen htarget => simp [hopen, htarget]
  | linked hopen htarget hassign =>
    simp only [hopen, htarget, assign_of_refuses hassign]
    rfl

theorem setDisplay_of_refuses {id : Int} {name : String}
    (h : d.Refuses (.setDisplay id name) cause) : d.setDisplay id name = .error (d.flaw cause) := by
  unfold setDisplay
  dsimp only
  rw [idOf?_stripped, key_stripped]
  cases h with
  | closed hclosed hwrite =>
    cases hwrite
    simp only [hclosed, if_true]
    rfl
  | stray hopen hid => simp [hopen, hid]
  | taken hopen hid hold hne => simp [hopen, hid, hold, hne]

theorem requireDisplays_of_refuses {range : IdRange} (h : d.Refuses (.validate range) cause) :
    d.requireDisplays range = .error (d.flaw cause) := by
  unfold requireDisplays
  cases h with
  | closed _ hwrite => cases hwrite
  | incomplete hid => rw [hid]

/-- **A refused call ends with its flaw and leaves the draft as it was.** -/
theorem Refuses.ends {c : Call} (h : d.Refuses c cause) :
    (perform c).Ends d d (.error (d.flaw cause).fault) := by
  cases c with
  | assign name id => exact ends_write_error (·.assign name id) (assign_of_refuses h) .done
  | link name target =>
    have hlink := link_of_refuses h
    refine ⟨?_, ?_⟩
    · simp only [perform, hlink]
    · simp only [perform, hlink, Traced.outcome_raise]
  | setDisplay id name =>
    exact ends_write_error (·.setDisplay id name) (setDisplay_of_refuses h) .done
  | validate range =>
    refine ⟨rfl, ?_⟩
    rw [outcome_perform_validate, requireDisplays_of_refuses h]
    rfl
  | close =>
    -- closing is not a write, and it is never refused
    cases h with
    | closed _ hwrite => cases hwrite

end Refused

/-! #### Nothing else is refused -/

/-- A name that is not refused is accepted. -/
theorem assign_ok_or_refuses (d : Draft) (name : String) (id : Int) :
    (∃ d', d.assign name id = .ok d') ∨ ∃ cause, d.Refuses (.assign name id) cause := by
  cases hclosed : d.isClosed with
  | true => exact .inr ⟨_, .closed hclosed rfl⟩
  | false =>
    by_cases hkey : d.content.key name = ""
    · exact .inr ⟨_, .blank hclosed hkey⟩
    cases hold : d.content.idOf? name with
    | none => exact .inl ⟨_, assign_eq_ok_iff.mpr ⟨hclosed, hkey, .inr ⟨hold, rfl⟩⟩⟩
    | some old =>
      by_cases hid : old = id
      · rw [hid] at hold
        exact .inl ⟨_, assign_eq_ok_iff.mpr ⟨hclosed, hkey, .inl ⟨hold, rfl⟩⟩⟩
      · exact .inr ⟨_, .bound hclosed hkey hold hid⟩

/-- A name to be shown that is not refused is accepted. -/
theorem setDisplay_ok_or_refuses (d : Draft) (id : Int) (name : String) :
    (∃ d', d.setDisplay id name = .ok d') ∨ ∃ cause, d.Refuses (.setDisplay id name) cause := by
  cases hclosed : d.isClosed with
  | true => exact .inr ⟨_, .closed hclosed rfl⟩
  | false =>
    by_cases hid : d.content.idOf? name = some id
    case neg => exact .inr ⟨_, .stray hclosed hid⟩
    cases hold : d.content.display? id with
    | none => exact .inl ⟨_, setDisplay_eq_ok_iff.mpr ⟨hclosed, hid, .inr ⟨hold, rfl⟩⟩⟩
    | some old =>
      by_cases hkey : d.content.key old = d.content.key name
      · exact .inl ⟨_, setDisplay_eq_ok_iff.mpr ⟨hclosed, hid, .inl ⟨⟨old, hold, hkey⟩, rfl⟩⟩⟩
      · exact .inr ⟨_, .taken hclosed hid hold hkey⟩

/-- **A call is accepted, or it is refused.** -/
theorem accepts_or_refuses (d : Draft) (c : Call) :
    (∃ d' r, d.Accepts c d' r) ∨ ∃ cause, d.Refuses c cause := by
  cases c with
  | assign name id =>
    rcases assign_ok_or_refuses d name id with ⟨d', h⟩ | h
    · exact .inl ⟨d', .done, .assign h⟩
    · exact .inr h
  | link name target =>
    cases hclosed : d.isClosed with
    | true => exact .inr ⟨_, .closed hclosed rfl⟩
    | false =>
      cases htarget : d.content.idOf? target with
      | none => exact .inr ⟨_, .dangling hclosed htarget⟩
      | some id =>
        rcases assign_ok_or_refuses d name id with ⟨d', h⟩ | ⟨cause, h⟩
        · exact .inl ⟨d', .id id, .link (link_eq_ok_iff.mpr ⟨htarget, h⟩)⟩
        · exact .inr ⟨cause, .linked hclosed htarget h⟩
  | setDisplay id name =>
    rcases setDisplay_ok_or_refuses d id name with ⟨d', h⟩ | h
    · exact .inl ⟨d', .done, .setDisplay h⟩
    · exact .inr h
  | validate range =>
    cases hid : d.content.firstUnnamed? range.size range.base with
    | some id => exact .inr ⟨_, .incomplete hid⟩
    | none =>
      have hcomplete : d.requireDisplays range = .ok () := by rw [requireDisplays, hid]
      exact .inl ⟨d, .done, .validate hcomplete⟩
  | close => exact .inl ⟨d.close, .closed d.closed, .close⟩

/-- So a call succeeds, or it fails and leaves the draft as it was. -/
theorem perform_cases (d : Draft) (c : Call) :
    (∃ d' r, d.Accepts c d' r) ∨ ∃ e, (perform c).Ends d d (.error e) := by
  rcases accepts_or_refuses d c with haccepts | ⟨cause, h⟩
  · exact .inl haccepts
  · exact .inr ⟨_, h.ends⟩

/-! #### What calls lead to -/

/-- A call succeeds exactly if it is accepted. -/
theorem ends_perform_ok_iff {d d' : Draft} {c : Call} {r : Reply} :
    (perform c).Ends d d' (.ok r) ↔ d.Accepts c d' r := by
  constructor
  · intro h
    rcases perform_cases d c with ⟨d₁, r₁, haccepts⟩ | ⟨e, hends⟩
    · obtain ⟨rfl, ho⟩ := h.unique haccepts.ends
      cases ho
      exact haccepts
    · cases (h.unique hends).2
  · exact Accepts.ends

/-- An accepted call does what `Step` says. -/
theorem Accepts.step {d d' : Draft} {c : Call} {r : Reply} (h : d.Accepts c d' r) : Step d d' := by
  cases h with
  | assign h => exact .assigned h
  | link h => exact .assigned (link_eq_ok_iff.mp h).2
  | setDisplay h => exact .displayed h
  | validate => exact .same
  | close => exact .closed

/-- Every call does what `Step` says. -/
theorem step_after (d : Draft) (c : Call) : Step d (d.after c) := by
  rcases perform_cases d c with ⟨d', r, haccepts⟩ | ⟨e, hends⟩
  · have hafter : d.after c = d' := haccepts.ends.1
    rw [hafter]
    exact haccepts.step
  · have hafter : d.after c = d := hends.1
    rw [hafter]
    exact .same

/-- A call changes nothing of a lexicon but its rows. -/
theorem Step.content_eq {d e : Draft} (h : Step d e) :
    e.content = { d.content with
      entries := e.content.entries
      displays := e.content.displays } := by
  cases h with
  | same => rfl
  | assigned h => obtain ⟨-, -, ⟨-, rfl⟩ | ⟨-, rfl⟩⟩ := assign_eq_ok_iff.mp h <;> rfl
  | displayed h => obtain ⟨-, -, ⟨-, rfl⟩ | ⟨-, rfl⟩⟩ := setDisplay_eq_ok_iff.mp h <;> rfl
  | closed => rfl

end Draft

/-! ### Runs -/

/-- A draft without names is normal. -/
theorem normal_empty (kind fallback : String) (foldCase : Bool) (owner : Option String) :
    (Draft.empty kind fallback foldCase owner).content.Normal :=
  { sound_empty kind fallback foldCase owner with key_key := List.forall_mem_nil _ }

/-- **A call keeps a lexicon normal.** -/
theorem Normal.step {d d' : Draft} (hd : d.content.Normal) (h : Draft.Step d d') :
    d'.content.Normal := by
  cases h with
  | same => exact hd
  | @assigned _ name id h =>
    -- a new entry is under the key of a name, and that is its own key
    refine { hd.toSound.assign h with key_key := ?_ }
    rw [(Draft.assign_keeps h).2]
    intro e he
    rcases (Draft.mem_entries_assign_iff h).mp he with rfl | he
    · exact Text.key_key _ _
    · exact hd.key_key e he
  | displayed h =>
    refine { hd.toSound.setDisplay h with key_key := ?_ }
    obtain ⟨-, -, ⟨-, rfl⟩ | ⟨-, rfl⟩⟩ := Draft.setDisplay_eq_ok_iff.mp h
    · exact hd.key_key
    · exact hd.key_key
  | closed => exact hd

/-- **Calls in a row keep a lexicon normal.** -/
theorem Normal.run {d : Draft} (hd : d.content.Normal) (calls : List Draft.Call) :
    (d.run calls).content.Normal := by
  induction calls generalizing d with
  | nil => exact hd
  | cons c rest ih => exact ih (hd.step (Draft.step_after d c))

/-- **The two tables of a draft fit together after any calls**, refused ones included: keys and shown
names are in normal form, names and IDs lead back to each other, and what is listed is known. -/
theorem Draft.consistent_run (kind fallback : String) (foldCase : Bool) (owner : Option String)
    (calls : List Call) : ((empty kind fallback foldCase owner).run calls).content.Consistent :=
  ((normal_empty kind fallback foldCase owner).run calls).consistent

end IsaNames.Lexicon
