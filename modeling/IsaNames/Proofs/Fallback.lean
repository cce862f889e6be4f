import IsaNames.Proofs.Dispatch
import IsaNames.Proofs.Snapshot
import Std.Data.String.ToInt

/-!
# IDs that are shown alike

An ID without a name is shown by the fallback and the ID itself, and nothing keeps a name from reading
just like that.  This is the only way for two IDs to be shown alike: different names have different keys,
and different numbers different digits.

## Main definitions

* `Lexicon.Mimics` — the name of an ID reads like what stands for another ID.
* `Lexicon.ShownAlike` — two IDs are shown by the same text.
* `Lexicon.TellsApart` — two IDs are shown alike only if one of them mimics the other.

## Main results

* `Lexicon.fallbackText_inj` — what stands for an ID without a name tells which ID it is.
* `Lexicon.Consistent.tellsApart` — so it is in every lexicon whose tables fit together.
* `Draft.shown_alike_only_by_mimicry` — **and in every lexicon that calls lead to.**
-/

namespace IsaNames.Lexicon

open Text

variable {x : Lexicon} {u v id : Int} {name : String}

/-! ### The texts -/

/-- **What stands for an ID without a name tells which ID it is**, even if the fallback ends in digits or
a sign. -/
theorem fallbackText_inj {fallback : String} :
    fallback ++ toString u = fallback ++ toString v ↔ u = v := by
  rw [String.append_right_inj, Int.toString_eq_repr, Int.toString_eq_repr, Int.repr_inj]

theorem display_of_some (h : x.display? id = some name) : x.display id = Phrase.ofString name := by
  simp [display, h]

theorem display_of_none (h : x.display? id = none) :
    x.display id = fallbackPhrase x.fallback id := by
  simp [display, h]

/-- What an ID is shown by can be written unless it has no name and is too long. -/
theorem write?_display_eq_none_iff :
    (x.display id).write? = none ↔ x.hasDisplay id = false ∧ leastTooLong ≤ id.natAbs := by
  cases h : x.display? id with
  | some name => simp [display_of_some h, hasDisplay, h, Phrase.write?]
  | none =>
    rw [display_of_none h, write?_fallbackPhrase]
    simp [hasDisplay, h]

/-! ### Alike -/

/-- The first ID has a name that reads like what stands for the second one, which has none. -/
def Mimics (x : Lexicon) (id other : Int) : Prop :=
  x.display? id = some (x.fallback ++ toString other) ∧ x.hasDisplay other = false

/-- Both IDs are shown, and by the same text. -/
def ShownAlike (x : Lexicon) (u v : Int) : Prop :=
  ∃ text, (x.display u).write? = some text ∧ (x.display v).write? = some text

theorem shownAlike_comm : x.ShownAlike u v ↔ x.ShownAlike v u := by
  simp only [ShownAlike, and_comm]

/-- Two IDs are shown by different texts unless one of them has a name and that reads like what stands
for the other one.  If so, both are shown unless the one without a name is too long. -/
structure TellsApart (x : Lexicon) (u v : Int) : Prop where
  /-- The texts, however long, are the same only by mimicry. -/
  text_eq_iff : (x.display u).text = (x.display v).text ↔ x.Mimics u v ∨ x.Mimics v u
  /-- The texts that can be written are the same only by mimicry. -/
  alike_iff : x.ShownAlike u v ↔
    x.Mimics u v ∧ v.natAbs < leastTooLong ∨ x.Mimics v u ∧ u.natAbs < leastTooLong
  /-- Of two IDs with names, or without them, neither mimics the other. -/
  text_ne : x.hasDisplay u = x.hasDisplay v → (x.display u).text ≠ (x.display v).text

theorem Mimics.hasDisplay_eq (h : x.Mimics u v) : x.hasDisplay u = true ∧ x.hasDisplay v = false :=
  ⟨by simp [hasDisplay, h.1], h.2⟩

/-- Of an ID that mimics another one both texts are the same. -/
theorem Mimics.text_eq (h : x.Mimics u v) : (x.display u).text = (x.display v).text := by
  obtain ⟨hu, hv⟩ := h
  rw [display_of_some hu, display_of_none (by simpa [hasDisplay] using hv)]
  rfl

/-- They can both be written unless the other ID is too long. -/
theorem Mimics.shownAlike_iff (h : x.Mimics u v) : x.ShownAlike u v ↔ v.natAbs < leastTooLong := by
  obtain ⟨hu, hv⟩ := h
  have hnone : x.display? v = none := by simpa [hasDisplay] using hv
  rw [ShownAlike, display_of_some hu, display_of_none hnone, write?_fallbackPhrase]
  by_cases hlen : v.natAbs < leastTooLong
  · simp [hlen, Phrase.write?]
  · simp [hlen]

/-- IDs that are shown alike have the same text. -/
theorem ShownAlike.text_eq (h : x.ShownAlike u v) : (x.display u).text = (x.display v).text := by
  obtain ⟨text, hu, hv⟩ := h
  simp only [Phrase.write?, Option.ite_none_right_eq_some, Option.some.injEq] at hu hv
  rw [hu.2, hv.2]

/-- Different IDs with the same text have it by mimicry. -/
theorem Consistent.mimics_of_text_eq (hx : x.Consistent) (hne : u ≠ v)
    (htext : (x.display u).text = (x.display v).text) : x.Mimics u v ∨ x.Mimics v u := by
  cases hu : x.display? u with
  | some name =>
    cases hv : x.display? v with
    | some name' =>
      -- the names would have the same key
      rw [display_of_some hu, display_of_some hv] at htext
      exact absurd (congrArg x.key htext) (hx.display_key_ne u v name name' hu hv hne)
    | none =>
      rw [display_of_some hu, display_of_none hv] at htext
      have hname : name = x.fallback ++ toString v := htext
      exact .inl ⟨hname ▸ hu, by simp [hasDisplay, hv]⟩
  | none =>
    cases hv : x.display? v with
    | some name' =>
      rw [display_of_none hu, display_of_some hv] at htext
      have hname : name' = x.fallback ++ toString u := htext.symm
      exact .inr ⟨hname ▸ hv, by simp [hasDisplay, hu]⟩
    | none =>
      rw [display_of_none hu, display_of_none hv] at htext
      exact absurd (fallbackText_inj.mp htext) hne

/-- **In a lexicon whose tables fit together, IDs are shown alike only by mimicry.** -/
theorem Consistent.tellsApart (hx : x.Consistent) (hne : u ≠ v) : x.TellsApart u v where
  text_eq_iff := by
    refine ⟨hx.mimics_of_text_eq hne, ?_⟩
    rintro (h | h)
    · exact h.text_eq
    · exact h.text_eq.symm
  alike_iff := by
    constructor
    · intro halike
      rcases hx.mimics_of_text_eq hne halike.text_eq with h | h
      · exact .inl ⟨h, h.shownAlike_iff.mp halike⟩
      · exact .inr ⟨h, h.shownAlike_iff.mp (shownAlike_comm.mp halike)⟩
    · rintro (⟨h, hlen⟩ | ⟨h, hlen⟩)
      · exact h.shownAlike_iff.mpr hlen
      · exact shownAlike_comm.mp (h.shownAlike_iff.mpr hlen)
  text_ne := by
    intro hsame htext
    rcases hx.mimics_of_text_eq hne htext with h | h
    · rw [h.hasDisplay_eq.1, h.hasDisplay_eq.2] at hsame
      cases hsame
    · rw [h.hasDisplay_eq.1, h.hasDisplay_eq.2] at hsame
      cases hsame

/-! ### Lexicons that calls lead to -/

namespace Draft

section Named

variable (kind fallback : String) (foldCase : Bool) (owner : Option String)

/-- What is in a draft when a name has been declared for an ID and nothing else. -/
theorem content_run_declared {name : String} (hkey : Text.key foldCase name ≠ "") (id : Int) :
    ((empty kind fallback foldCase owner).run [.assign name id, .setDisplay id name]).content =
      { kind, fallback, foldCase, owner,
        entries := [(Text.key foldCase name, id)], displays := [(id, stripped name)] } := by
  have hassign : (empty kind fallback foldCase owner).assign name id =
      .ok ((empty kind fallback foldCase owner).addEntries [(Text.key foldCase name, id)]) :=
    assign_eq_ok_iff.mpr ⟨rfl, hkey, .inr ⟨rfl, rfl⟩⟩
  have hdisplay := setDisplay_fresh (assign_keeps hassign).1 (idOf?_of_assign hassign)
    (List.forall_mem_nil _)
  simp only [run, List.foldl_cons, List.foldl_nil, after]
  rw [(Accepts.assign hassign).ends.1, (Accepts.setDisplay hdisplay).ends.1]
  rfl

/-- **A name can read like what stands for any other ID** whose fallback has no blanks. -/
theorem mimics_run_declared (hfallback : ∀ c ∈ fallback.toList, isBlank c = false) {id : Int}
    {other : Nat} (hne : (other : Int) ≠ id) :
    ((empty kind fallback foldCase owner).run [.assign (fallback ++ toString other) id,
      .setDisplay id (fallback ++ toString other)]).content.Mimics id other := by
  rw [content_run_declared kind fallback foldCase owner
    (key_append_toString_ne_empty foldCase fallback other), stripped_append_toString hfallback]
  have htext : toString other = toString (other : Int) := rfl
  constructor
  · rw [htext]
    simp [display?]
  · simp [hasDisplay, display?, hne]

end Named

/-- **IDs are shown alike only by mimicry**, whatever was called on the draft, in the draft as in the
lexicon that it is closed as. -/
theorem shown_alike_only_by_mimicry (kind fallback : String) (foldCase : Bool)
    (owner : Option String) (calls : List Call) {u v : Int} (h : u ≠ v) :
    let d := (empty kind fallback foldCase owner).run calls
    d.content.TellsApart u v ∧ d.closed.TellsApart u v ∧
      ∀ id, (d.content.display id).write? = none ↔
        d.content.hasDisplay id = false ∧ leastTooLong ≤ id.natAbs := by
  intro d
  have hapart := ((normal_empty kind fallback foldCase owner).run calls).consistent.tellsApart h
  refine ⟨hapart, ?_, fun id => write?_display_eq_none_iff⟩
  have hclosed : d.ClosedAsIs := closedAsIs_run (closedAsIs_of_isOpen rfl) calls
  rw [hclosed.closed_eq]
  exact hapart

/-- The word before a register ID has no blanks. -/
theorem isBlank_of_mem_fallback : ∀ c ∈ "R???".toList, isBlank c = false := by
  simp [isBlank, Span.anyCovers, blankSpans, Span.covers]

/-- The ID 0 can have the name that stands for 1. -/
theorem shown_alike_of_mimic :
    (1 : Int) ≠ 0 ∧
      let x := ((empty "registro" "R???" true none).run
        [.assign ("R???" ++ toString 1) 0, .setDisplay 0 ("R???" ++ toString 1)]).content
      x.Mimics 0 1 ∧ x.ShownAlike 0 1 := by
  refine ⟨by decide, ?_⟩
  intro x
  have hmimics : x.Mimics 0 1 :=
    mimics_run_declared "registro" "R???" true none isBlank_of_mem_fallback (by decide)
  have hapart := (shown_alike_only_by_mimicry "registro" "R???" true none
    [.assign ("R???" ++ toString 1) 0, .setDisplay 0 ("R???" ++ toString 1)]
    (u := 0) (v := 1) (by decide)).1
  exact ⟨hmimics, hapart.alike_iff.mpr (.inl ⟨hmimics, one_lt_leastTooLong⟩)⟩

/-- An ID that is too long is not shown, so it is not shown like the one that mimics it. -/
theorem mimicked_but_too_long :
    let x := ((empty "registro" "R???" true none).run
      [.assign ("R???" ++ toString leastTooLong) 0,
        .setDisplay 0 ("R???" ++ toString leastTooLong)]).content
    x.Mimics 0 leastTooLong ∧ ¬ x.ShownAlike 0 leastTooLong := by
  intro x
  have hne : (leastTooLong : Int) ≠ 0 := by
    have hpos := one_lt_leastTooLong
    omega
  have hmimics : x.Mimics 0 leastTooLong :=
    mimics_run_declared "registro" "R???" true none isBlank_of_mem_fallback hne
  refine ⟨hmimics, ?_⟩
  rw [hmimics.shownAlike_iff]
  simp

end Draft

end IsaNames.Lexicon
