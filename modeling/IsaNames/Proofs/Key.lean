import IsaNames.Text.Key
import Mathlib.Data.List.DropRight

/-!
# Laws of keys

What is shown of a name is the name without surrounding blanks, and it has the key of the name.  A
key is empty only if the name is blank, which a name that ends in a number never is.

## Main results

* `Text.key_stripped` — a name and what is shown of it have the same key.
* `Text.key_append` — blanks around a name do not matter for its key.
* `Text.key_eq_empty_iff` — the names without a key are the blank ones.
* `Text.key_append_toString_ne_empty` — a stem followed by a number has a key.
-/

namespace IsaNames.Text

/-- What is said of the characters of a list is checked for one after the other, and not for all
characters that there are. -/
theorem forall_mem_of_all {P : Char → Prop} [DecidablePred P] {cs : List Char}
    (h : cs.all (fun c => decide (P c)) = true) : ∀ c ∈ cs, P c :=
  fun c hc => of_decide_eq_true (List.all_eq_true.mp h c hc)

/-! ### Trimming -/

section Trim

variable (p : Char → Bool) (cs : List Char)

theorem trimWhile_eq_rdropWhile : trimWhile p cs = (cs.dropWhile p).rdropWhile p := rfl

/-- What is left after trimming does not begin with a character of the class. -/
theorem dropWhile_trimWhile : (trimWhile p cs).dropWhile p = trimWhile p cs := by
  rw [List.dropWhile_eq_self_iff]
  intro hl
  have hfront : trimWhile p cs <+: cs.dropWhile p := List.rdropWhile_prefix p _
  have hne : cs.dropWhile p ≠ [] := by
    intro h
    rw [h, List.prefix_nil] at hfront
    rw [hfront] at hl
    exact Nat.lt_irrefl _ hl
  have hhead : (trimWhile p cs)[0] = (cs.dropWhile p).head hne := by
    rw [List.head_eq_getElem]
    exact hfront.getElem hl
  simpa [hhead] using List.head_dropWhile_not p hne

/-- Trimming twice trims no more than once. -/
theorem trimWhile_trimWhile : trimWhile p (trimWhile p cs) = trimWhile p cs := by
  rw [trimWhile_eq_rdropWhile p (trimWhile p cs), dropWhile_trimWhile, trimWhile_eq_rdropWhile,
    List.rdropWhile_idempotent]

/-- What is put at the two ends of a text is trimmed off again if it is of the class. -/
theorem trimWhile_append {before after : List Char} (hbefore : ∀ c ∈ before, p c = true)
    (hafter : ∀ c ∈ after, p c = true) : trimWhile p (before ++ cs ++ after) = trimWhile p cs := by
  rw [trimWhile_eq_rdropWhile, trimWhile_eq_rdropWhile, List.append_assoc,
    List.dropWhile_append_of_pos hbefore, List.dropWhile_append]
  split
  · next hcs =>
    -- there is nothing else in the text, so nothing is left on either side
    rw [List.isEmpty_iff] at hcs
    rw [hcs, List.dropWhile_eq_nil_iff.mpr hafter]
  · have hafter' : ∀ c ∈ after.reverse, p c = true := fun c hc => hafter c (List.mem_reverse.mp hc)
    rw [List.rdropWhile, List.reverse_append, List.dropWhile_append_of_pos hafter', List.rdropWhile]

/-- Trimming leaves a text as it is that has no character of the class. -/
theorem trimWhile_eq_self {p : Char → Bool} {cs : List Char} (h : ∀ c ∈ cs, p c = false) :
    trimWhile p cs = cs := by
  have hdrop : ∀ l : List Char, (∀ c ∈ l, p c = false) → l.dropWhile p = l := by
    intro l hl
    cases l with
    | nil => rfl
    | cons c rest => rw [List.dropWhile_cons, hl c List.mem_cons_self, if_neg Bool.false_ne_true]
  rw [trimWhile_eq_rdropWhile, hdrop cs h, List.rdropWhile,
    hdrop _ fun c hc => h c (List.mem_reverse.mp hc), List.reverse_reverse]

/-- What is trimmed off at the two ends is of the class. -/
theorem exists_trimWhile : ∃ before after, cs = before ++ trimWhile p cs ++ after ∧
    (∀ c ∈ before, p c = true) ∧ ∀ c ∈ after, p c = true := by
  have hrest : trimWhile p cs ++ ((cs.dropWhile p).reverse.takeWhile p).reverse = cs.dropWhile p := by
    rw [trimWhile, dropRightWhile, ← List.reverse_append, List.takeWhile_append_dropWhile,
      List.reverse_reverse]
  refine ⟨cs.takeWhile p, ((cs.dropWhile p).reverse.takeWhile p).reverse, ?_, ?_, ?_⟩
  · rw [List.append_assoc, hrest, List.takeWhile_append_dropWhile]
  · exact fun c hc => List.mem_takeWhile_imp hc
  · exact fun c hc => List.mem_takeWhile_imp (List.mem_reverse.mp hc)

/-- Trimming what characters are written as trims the characters that are written as one of the
class. -/
theorem trimWhile_map (f : Char → Char) :
    trimWhile p (cs.map f) = (trimWhile (p ∘ f) cs).map f := by
  simp only [trimWhile, dropRightWhile, List.dropWhile_map, ← List.map_reverse]

/-- Trimming leaves nothing exactly of a text of the class. -/
theorem trimWhile_eq_nil_iff : trimWhile p cs = [] ↔ ∀ c ∈ cs, p c = true := by
  rw [trimWhile_eq_rdropWhile, List.rdropWhile_eq_nil_iff]
  constructor
  · intro h
    have hall : ∀ c ∈ cs.takeWhile p ++ cs.dropWhile p, p c = true := by
      intro c hc
      rcases List.mem_append.mp hc with hc | hc
      · exact List.mem_takeWhile_imp hc
      · exact h c hc
    rwa [List.takeWhile_append_dropWhile] at hall
  · intro h c hc
    exact h c ((List.dropWhile_sublist p).mem hc)

end Trim

/-! ### Keys -/

/-- Lower casing leaves nothing only of nothing. -/
theorem lower_eq_nil_iff {cs : List Char} : lower cs = [] ↔ cs = [] := by
  cases cs with
  | nil => simp [lower, lowerFrom]
  | cons c after =>
    have hne : lowerAt [] c after ≠ [] := by
      unfold lowerAt
      repeat' split
      all_goals simp
    simp [lower, lowerFrom, hne]

@[simp] theorem stripped_stripped (name : String) : stripped (stripped name) = stripped name := by
  simp only [stripped, strip, String.toList_ofList, trimWhile_trimWhile]

/-- A name and what is shown of it have the same key. -/
@[simp] theorem key_stripped (foldCase : Bool) (name : String) :
    key foldCase (stripped name) = key foldCase name := by
  simp only [key, stripped, strip, String.toList_ofList, trimWhile_trimWhile]

/-- Blanks around a name do not matter for its key. -/
theorem key_append (foldCase : Bool) {before after : String} (name : String)
    (hbefore : ∀ c ∈ before.toList, isBlank c = true)
    (hafter : ∀ c ∈ after.toList, isBlank c = true) :
    key foldCase (before ++ name ++ after) = key foldCase name := by
  simp only [key, strip, String.toList_append, trimWhile_append _ _ hbefore hafter]

/-- The names without a key are the blank ones. -/
theorem key_eq_empty_iff {foldCase : Bool} {name : String} :
    key foldCase name = "" ↔ ∀ c ∈ name.toList, isBlank c = true := by
  have hstrip : strip name.toList = [] ↔ ∀ c ∈ name.toList, isBlank c = true :=
    trimWhile_eq_nil_iff isBlank name.toList
  rw [← hstrip, key, String.ofList_eq_empty_iff]
  cases foldCase with
  | false => simp
  | true => simp [lower_eq_nil_iff]

/-- No decimal digit is blank. -/
theorem isBlank_of_isDigit {c : Char} (h : c.isDigit = true) : isBlank c = false := by
  rw [Char.isDigit_iff_toNat, show '0'.toNat = 48 from rfl, show '9'.toNat = 57 from rfl] at h
  simp [isBlank, Span.anyCovers, blankSpans, Span.covers]
  omega

/-- A stem followed by a number has a key. -/
theorem key_append_toString_ne_empty (foldCase : Bool) (stem : String) (n : Nat) :
    key foldCase (stem ++ toString n) ≠ "" := by
  intro h
  rw [key_eq_empty_iff] at h
  -- the number has a digit, which would have to be blank
  obtain ⟨c, hc⟩ := List.exists_mem_of_ne_nil _ (Nat.toDigits_ne_nil (n := n) (b := 10))
  have hblank : isBlank c = true := by
    apply h
    rw [String.toList_append, List.mem_append, Nat.toString_eq_repr, Nat.toList_repr]
    exact Or.inr hc
  rw [isBlank_of_isDigit (Nat.isDigit_of_mem_toDigits (by decide) (by decide) hc)] at hblank
  cases hblank

end IsaNames.Text
