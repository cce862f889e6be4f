import IsaNames.Proofs.Draft
import IsaNames.Proofs.Registers

/-!
# Spellings do not matter

A draft looks only at the keys of the names that it is given; a spelling is kept to show an ID by, and
there too it is the key that is compared.  So a run of calls may be spelled in another way: as long as
the keys are the same, the same calls succeed, and the two drafts answer alike in all but the spelling
of what they show.

## Main definitions

* `Draft.Call.Respelled` — calls that differ in the spelling of their names only.
* `Lexicon.Respelled` — lexicons that differ in the spelling of what they show only.
* `Lexicon.AnswersAs`, `Draft.Answered` — what this comes to for those who ask and who call.

## Main results

* `Draft.Accepts.respelled` — a call that is spelled in another way is accepted too.
* `Draft.Respelled.perform` — **one call keeps two drafts the same up to spelling.**
* `Draft.run_respelled` — **so do the calls of a whole run, with answers that agree.**
-/

namespace IsaNames.Lexicon

/-! ### Lexicons -/

/-- The IDs that are shown by names, with the keys of these. -/
def shownKeys (x : Lexicon) : List (Int × String) := x.displays.map fun e => (e.1, x.key e.2)

theorem lookup_shownKeys (x : Lexicon) (id : Int) :
    x.shownKeys.lookup id = (x.display? id).map x.key := by
  unfold shownKeys display?
  induction x.displays with
  | nil => rfl
  | cons e rest ih =>
    rw [List.map_cons, List.lookup_cons, List.lookup_cons, ih]
    cases id == e.1 <;> rfl

/-- Two lexicons differ in the spelling of what they show only. -/
structure Respelled (x y : Lexicon) : Prop where
  kind_eq : y.kind = x.kind
  fallback_eq : y.fallback = x.fallback
  foldCase_eq : y.foldCase = x.foldCase
  owner_eq : y.owner = x.owner
  entries_eq : y.entries = x.entries
  shownKeys_eq : y.shownKeys = x.shownKeys

/-- Two lexicons give the same answers, but for the spelling of what they show. -/
structure AnswersAs (x y : Lexicon) : Prop where
  names : y.names = x.names
  size : y.size = x.size
  idOf : ∀ name, y.idOf name = x.idOf name
  hasDisplay : ∀ id, y.hasDisplay id = x.hasDisplay id
  aliases : ∀ id, y.aliases id = x.aliases id
  display_key : ∀ id, (y.display id).write?.map y.key = (x.display id).write?.map x.key

namespace Respelled

variable {x y : Lexicon}

theorem refl (x : Lexicon) : x.Respelled x := ⟨rfl, rfl, rfl, rfl, rfl, rfl⟩

theorem symm (h : x.Respelled y) : y.Respelled x :=
  ⟨h.kind_eq.symm, h.fallback_eq.symm, h.foldCase_eq.symm, h.owner_eq.symm, h.entries_eq.symm,
    h.shownKeys_eq.symm⟩

theorem key_eq (h : x.Respelled y) : y.key = x.key := by
  funext name
  rw [key, h.foldCase_eq, key]

/-- Names with the same key stand for the same ID. -/
theorem idOf?_eq (h : x.Respelled y) {name name' : String} (hname : x.key name = x.key name') :
    y.idOf? name' = x.idOf? name := by
  rw [Lexicon.idOf?, h.entries_eq, h.key_eq, ← hname, Lexicon.idOf?]

theorem display?_key (h : x.Respelled y) (id : Int) :
    (y.display? id).map y.key = (x.display? id).map x.key := by
  rw [← lookup_shownKeys, h.shownKeys_eq, lookup_shownKeys]

theorem hasDisplay_eq (h : x.Respelled y) (id : Int) : y.hasDisplay id = x.hasDisplay id := by
  have hkey := congrArg Option.isSome (h.display?_key id)
  rwa [Option.isSome_map, Option.isSome_map] at hkey

theorem answersAs (h : x.Respelled y) : x.AnswersAs y where
  names := by rw [names, h.entries_eq, names]
  size := by rw [size, h.entries_eq, size]
  idOf := by
    intro name
    rw [idOf, h.idOf?_eq rfl, h.kind_eq, idOf]
  hasDisplay := h.hasDisplay_eq
  aliases := by
    intro id
    rw [aliases, h.display?_key, h.entries_eq, aliases]
  display_key := by
    intro id
    have hkey := h.display?_key id
    rw [display, display, h.fallback_eq]
    cases hx : x.display? id with
    | none =>
      rw [hx, Option.map_none, Option.map_eq_none_iff] at hkey
      rw [hkey, h.key_eq]
    | some name =>
      rw [hx, Option.map_some, Option.map_eq_some_iff] at hkey
      obtain ⟨name', hname', hkey⟩ := hkey
      rw [hname']
      exact congrArg some hkey

end Respelled

namespace Draft

/-! ### Drafts and calls -/

/-- Two drafts differ in the spelling of what they show only. -/
structure Respelled (d e : Draft) : Prop where
  content : d.content.Respelled e.content
  closedAs : Option.Rel Lexicon.Respelled d.closedAs e.closedAs

/-- Two calls differ in the spelling of their names only. -/
inductive Call.Respelled (foldCase : Bool) : Call → Call → Prop
  | assign {name name' : String} (id : Int) (h : Text.key foldCase name = Text.key foldCase name') :
      Respelled foldCase (.assign name id) (.assign name' id)
  | link {name name' target target' : String}
      (h : Text.key foldCase name = Text.key foldCase name')
      (htarget : Text.key foldCase target = Text.key foldCase target') :
      Respelled foldCase (.link name target) (.link name' target')
  | setDisplay {name name' : String} (id : Int)
      (h : Text.key foldCase name = Text.key foldCase name') :
      Respelled foldCase (.setDisplay id name) (.setDisplay id name')
  | validate (range : IdRange) : Respelled foldCase (.validate range) (.validate range)
  | close : Respelled foldCase .close .close

/-- Two answers are the same, but for the spelling of what a closed draft shows. -/
inductive Reply.AnswersAs : Reply → Reply → Prop
  | done : AnswersAs .done .done
  | id (id : Int) : AnswersAs (.id id) (.id id)
  | closed {x y : Lexicon} (h : x.AnswersAs y) : AnswersAs (.closed x) (.closed y)

/-- Two calls ended in the same way: either both succeeded, with answers that agree, or both were
refused. -/
inductive Answered : Except Fault Reply → Except Fault Reply → Prop
  | ok {r r' : Reply} (h : r.AnswersAs r') : Answered (.ok r) (.ok r')
  | error (e e' : Fault) : Answered (.error e) (.error e')

theorem Call.Respelled.symm {foldCase : Bool} {c c' : Call} (h : c.Respelled foldCase c') :
    c'.Respelled foldCase c := by
  cases h with
  | assign id h => exact .assign id h.symm
  | link h htarget => exact .link h.symm htarget.symm
  | setDisplay id h => exact .setDisplay id h.symm
  | validate range => exact .validate range
  | close => exact .close

namespace Respelled

variable {d e d' : Draft} {name name' : String} {id : Int}

theorem refl (d : Draft) : d.Respelled d := by
  refine ⟨.refl _, ?_⟩
  cases d.closedAs with
  | none => exact .none
  | some x => exact .some (.refl x)

theorem symm (h : d.Respelled e) : e.Respelled d := by
  refine ⟨h.content.symm, ?_⟩
  have hclosed := h.closedAs
  generalize d.closedAs = x?, e.closedAs = y? at hclosed ⊢
  cases hclosed with
  | none => exact .none
  | some hx => exact .some hx.symm

theorem isClosed_eq (h : d.Respelled e) : e.isClosed = d.isClosed := by
  have hclosed := h.closedAs
  rw [isClosed, isClosed]
  generalize d.closedAs = x?, e.closedAs = y? at hclosed ⊢
  cases hclosed <;> rfl

theorem closed (h : d.Respelled e) : d.closed.Respelled e.closed := by
  have hclosed := h.closedAs
  rw [Draft.closed, Draft.closed]
  generalize d.closedAs = x?, e.closedAs = y? at hclosed ⊢
  cases hclosed with
  | none => exact h.content
  | some hx => exact hx

/-! ### One call -/

theorem addEntries (h : d.Respelled e) (rows : List (String × Int)) :
    (d.addEntries rows).Respelled (e.addEntries rows) :=
  ⟨{ h.content with entries_eq := congrArg (· ++ rows) h.content.entries_eq }, h.closedAs⟩

theorem addDisplays (h : d.Respelled e) (hname : d.content.key name = d.content.key name') :
    (d.addDisplays [(id, name)]).Respelled (e.addDisplays [(id, name')]) := by
  refine ⟨{ h.content with shownKeys_eq := ?_ }, h.closedAs⟩
  have hkey : e.content.key name' = d.content.key name := by rw [h.content.key_eq, hname]
  have hshown := h.content.shownKeys_eq
  unfold shownKeys at hshown ⊢
  rw [displays_addDisplays, displays_addDisplays, List.map_append, List.map_append]
  exact congrArg₂ (· ++ ·) hshown (congrArg (fun k => [(id, k)]) hkey)

theorem assign (h : d.Respelled e) (hname : d.content.key name = d.content.key name')
    (ha : d.assign name id = .ok d') :
    ∃ e', e.assign name' id = .ok e' ∧ d'.Respelled e' := by
  obtain ⟨hopen, hkey, hcases⟩ := assign_eq_ok_iff.mp ha
  have hkey' : e.content.key name' = d.content.key name := by rw [h.content.key_eq, hname]
  rw [← h.isClosed_eq] at hopen
  rw [← h.content.idOf?_eq hname, ← hkey'] at hcases
  rw [← hkey'] at hkey
  rcases hcases with ⟨hid, rfl⟩ | ⟨hid, rfl⟩
  · exact ⟨e, assign_eq_ok_iff.mpr ⟨hopen, hkey, .inl ⟨hid, rfl⟩⟩, h⟩
  · exact ⟨_, assign_eq_ok_iff.mpr ⟨hopen, hkey, .inr ⟨hid, rfl⟩⟩, h.addEntries _⟩

theorem setDisplay (h : d.Respelled e) (hname : d.content.key name = d.content.key name')
    (hs : d.setDisplay id name = .ok d') :
    ∃ e', e.setDisplay id name' = .ok e' ∧ d'.Respelled e' := by
  obtain ⟨hopen, hid, hcases⟩ := setDisplay_eq_ok_iff.mp hs
  rw [← h.isClosed_eq] at hopen
  rw [← h.content.idOf?_eq hname] at hid
  have hshown := h.content.display?_key id
  rcases hcases with ⟨⟨old, hold, hkey⟩, rfl⟩ | ⟨hnone, rfl⟩
  · rw [hold, Option.map_some, Option.map_eq_some_iff] at hshown
    obtain ⟨old', hold', hkey'⟩ := hshown
    refine ⟨e, setDisplay_eq_ok_iff.mpr ⟨hopen, hid, .inl ⟨⟨old', hold', ?_⟩, rfl⟩⟩, h⟩
    rw [hkey', hkey, hname, h.content.key_eq]
  · rw [hnone, Option.map_none, Option.map_eq_none_iff] at hshown
    refine ⟨_, setDisplay_eq_ok_iff.mpr ⟨hopen, hid, .inr ⟨hshown, rfl⟩⟩, h.addDisplays ?_⟩
    rw [key_stripped, key_stripped, hname]

end Respelled

/-- A call that is spelled in another way is accepted too, and answered alike. -/
theorem Accepts.respelled {d d' e : Draft} {c c' : Call} {r : Reply} (ha : d.Accepts c d' r)
    (h : d.Respelled e) (hc : c.Respelled d.content.foldCase c') :
    ∃ e' r', e.Accepts c' e' r' ∧ d'.Respelled e' ∧ r.AnswersAs r' := by
  cases ha with
  | assign ha =>
    cases hc with
    | assign _ hname =>
      obtain ⟨e', ha', h'⟩ := h.assign hname ha
      exact ⟨e', .done, .assign ha', h', .done⟩
  | @link name target id _ ha =>
    cases hc with
    | link hname htarget =>
      obtain ⟨hid, ha⟩ := link_eq_ok_iff.mp ha
      obtain ⟨e', ha', h'⟩ := h.assign hname ha
      rw [← h.content.idOf?_eq htarget] at hid
      exact ⟨e', .id id, .link (link_eq_ok_iff.mpr ⟨hid, ha'⟩), h', .id id⟩
  | setDisplay hs =>
    cases hc with
    | setDisplay _ hname =>
      obtain ⟨e', hs', h'⟩ := h.setDisplay hname hs
      exact ⟨e', .done, .setDisplay hs', h', .done⟩
  | validate hv =>
    cases hc with
    | validate range =>
      rw [requireDisplays_eq_ok_iff] at hv
      refine ⟨e, .done, .validate (requireDisplays_eq_ok_iff.mpr ?_), h, .done⟩
      intro id hid
      rw [h.content.hasDisplay_eq]
      exact hv id hid
  | close =>
    cases hc with
    | close => exact ⟨_, _, .close, ⟨h.content, .some h.closed⟩, .closed h.closed.answersAs⟩

/-- **One call keeps two drafts the same up to spelling**, and it succeeds on both or on neither. -/
theorem Respelled.perform {d e : Draft} {c c' : Call} (h : d.Respelled e)
    (hc : c.Respelled d.content.foldCase c') :
    (d.after c).Respelled (e.after c') ∧
      Answered (Draft.perform c d).2.outcome (Draft.perform c' e).2.outcome := by
  rcases perform_cases d c with ⟨d', r, ha⟩ | ⟨f, hends⟩
  · obtain ⟨e', r', ha', h', hr⟩ := ha.respelled h hc
    rw [after, after, ha.ends.1, ha'.ends.1, ha.ends.2, ha'.ends.2]
    exact ⟨h', .ok hr⟩
  · rcases perform_cases e c' with ⟨e', r', ha'⟩ | ⟨f', hends'⟩
    · -- then the call would not be refused by the first draft either
      rw [← h.content.foldCase_eq] at hc
      obtain ⟨d', r, ha, -, -⟩ := ha'.respelled h.symm hc.symm
      cases (hends.unique ha.ends).2
    · rw [after, after, hends.1, hends'.1, hends.2, hends'.2]
      exact ⟨h, .error f f'⟩

/-! ### Runs -/

/-- No call changes whether case matters. -/
theorem Step.foldCase_eq {d d' : Draft} (h : Step d d') :
    d'.content.foldCase = d.content.foldCase := by
  rw [h.content_eq]

/-- **Calls in a row keep two drafts the same up to spelling**, and each of them ends on both alike. -/
theorem Respelled.run {d e : Draft} (h : d.Respelled e) {foldCase : Bool}
    (hfold : d.content.foldCase = foldCase) {calls calls' : List Call}
    (hcalls : List.Forall₂ (Call.Respelled foldCase) calls calls') :
    (d.run calls).Respelled (e.run calls') ∧
      List.Forall₂ (fun r r' => Answered r.2 r'.2) (Action.history Draft.perform d calls)
        (Action.history Draft.perform e calls') := by
  induction hcalls generalizing d e with
  | nil => exact ⟨h, .nil⟩
  | @cons c c' rest rest' hc _ ih =>
    rw [← hfold] at hc
    obtain ⟨hnext, hanswer⟩ := h.perform hc
    obtain ⟨hrun, hanswers⟩ := ih hnext ((step_after d c).foldCase_eq.trans hfold)
    exact ⟨hrun, .cons hanswer hanswers⟩

/-- **Names with the same key are interchangeable.**  From a draft without names, each call of a run
succeeds exactly if it does when the names of the run are spelled in another way, and with the same
answer; in the end both drafts answer alike, but for the spelling of what they show.  Blanks around a
name are a matter of spelling only. -/
theorem run_respelled (kind fallback : String) (owner : Option String) {foldCase : Bool}
    {calls calls' : List Call} (h : List.Forall₂ (Call.Respelled foldCase) calls calls') :
    List.Forall₂ (fun r r' => Answered r.2 r'.2)
        (Action.history perform (empty kind fallback foldCase owner) calls)
        (Action.history perform (empty kind fallback foldCase owner) calls') ∧
      ((empty kind fallback foldCase owner).run calls).content.AnswersAs
        ((empty kind fallback foldCase owner).run calls').content ∧
      ∀ before name after : String, (∀ c ∈ before.toList, Text.isBlank c = true) →
        (∀ c ∈ after.toList, Text.isBlank c = true) →
        Text.key foldCase (before ++ name ++ after) = Text.key foldCase name := by
  obtain ⟨hrun, hanswers⟩ := (Respelled.refl (empty kind fallback foldCase owner)).run rfl h
  exact ⟨hanswers, hrun.content.answersAs, fun _ name _ => Text.key_append foldCase name⟩

theorem run_respelled_of_sigma :
    let d := empty "instrucción" "A???" true none
    let calls : List Call := [.assign " ΣΑΣ" 0, .link "ADD" "σας", .setDisplay 0 "ΣΑΣ ", .close]
    let calls' : List Call := [.assign "σας" 0, .link "\tadd" "ΣΑΣ", .setDisplay 0 "σας", .close]
    List.Forall₂ (Call.Respelled true) calls calls' ∧
      (d.run calls).content.AnswersAs (d.run calls').content ∧
      (d.run calls).content ≠ (d.run calls').content := by
  intro d calls calls'
  have h : List.Forall₂ (Call.Respelled true) calls calls' :=
    .cons (.assign 0 (by decide +kernel)) <|
      .cons (.link (by decide +kernel) (by decide +kernel)) <|
        .cons (.setDisplay 0 (by decide +kernel)) <| .cons .close .nil
  exact ⟨h, (run_respelled _ _ _ h).2.1, by decide +kernel⟩

end Draft

end IsaNames.Lexicon
