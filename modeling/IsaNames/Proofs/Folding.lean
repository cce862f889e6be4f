import IsaNames.Proofs.LowerCase

/-!
# Keys are normal forms

The key of a name is the name stripped and, where case does not matter, lowered.  How a capital sigma is
lowered depends on its neighbours, and stripping takes some of them away; but a blank is neither a letter
nor skipped in the search for one, so that next to blanks a text is lowered as it is on its own.  Hence
it does not matter which of the two is done first.

## Main definitions

* `lowercased` — the lower case of a text.
* `IsNormalForm` — what a normal form of names has to satisfy.

## Main results

* `lower_append_blanks` — blanks around a text stay, and the text is lowered as it is without them.
* `strip_lower_comm` — **stripping and lower casing commute.**
* `key_eq_self_iff` — the names that are their own keys.
* `key_normalizes` — **the key is a normal form of names.**
-/

namespace IsaNames.Text

/-! ### Blanks as neighbours -/

/-- Spans that are all apart from others have no code point in common with them. -/
theorem Span.anyCovers_eq_false {spans others : List Span}
    (h : (spans.all fun s => others.all s.isApart) = true) {n : Nat}
    (hn : Span.anyCovers spans n = true) : Span.anyCovers others n = false := by
  obtain ⟨s, hs, hcovers⟩ := List.any_eq_true.mp hn
  rw [Span.anyCovers, List.any_eq_false]
  intro t ht
  rw [Span.covers_of_isApart (List.all_eq_true.mp (List.all_eq_true.mp h s hs) t ht) hcovers]
  exact Bool.false_ne_true

variable {c : Char} {before after blanks : List Char}

/-- A blank is no letter. -/
theorem isCased_of_isBlank (h : isBlank c = true) : isCased c = false :=
  Span.anyCovers_eq_false (by decide +kernel) h

/-- A blank is not skipped in the search for a letter. -/
theorem isCaseIgnorable_of_isBlank (h : isBlank c = true) : isCaseIgnorable c = false :=
  Span.anyCovers_eq_false (by decide +kernel) h

/-- Lower casing leaves a blank as it is. -/
theorem isSettled_of_isBlank (h : isBlank c = true) : IsSettled c := by
  refine ⟨?_, ?_, ?_⟩
  · rintro rfl
    revert h
    decide +kernel
  · rintro rfl
    revert h
    decide +kernel
  · have happart : (blankSpans.all fun s => lowerRuns.all fun r => s.isApart ⟨r.first, r.last⟩) =
        true := by decide +kernel
    obtain ⟨s, hs, hcovers⟩ := List.any_eq_true.mp h
    rw [lowerChar, CaseRun.map_eq_self, Char.ofNat_toNat]
    intro r hr
    have hout := Span.covers_of_isApart (List.all_eq_true.mp (List.all_eq_true.mp happart s hs) r hr)
      hcovers
    rw [Bool.eq_false_iff, Ne, Span.covers_iff] at hout
    rw [Bool.eq_false_iff, Ne, CaseRun.covers_iff]
    exact fun hr => hout ⟨hr.1, hr.2.1⟩

/-- No letter is met among blanks, nor behind them. -/
theorem meetsLetter_append (cs : List Char) (hblanks : ∀ c ∈ blanks, isBlank c = true) :
    meetsLetter (cs ++ blanks) = meetsLetter cs := by
  rw [meetsLetter, meetsLetter, List.dropWhile_append]
  cases hcs : cs.dropWhile isCaseIgnorable with
  | cons d rest => rfl
  | nil =>
    cases blanks with
    | nil => rfl
    | cons b rest =>
      have hb := hblanks b List.mem_cons_self
      simp [isCaseIgnorable_of_isBlank hb, isCased_of_isBlank hb]

/-- A text is lowered between blanks as it is on its own. -/
theorem lowerFrom_append_blanks {blanks' : List Char} (hblanks : ∀ c ∈ blanks, isBlank c = true)
    (hblanks' : ∀ c ∈ blanks', isBlank c = true) (before cs : List Char) :
    lowerFrom (before ++ blanks) (cs ++ blanks') = lowerFrom before cs ++ blanks' := by
  induction cs generalizing before with
  | nil => exact lowerFrom_eq_self fun c hc => isSettled_of_isBlank (hblanks' c hc)
  | cons c rest ih =>
    have hends : endsWord (before ++ blanks) (rest ++ blanks') = endsWord before rest := by
      rw [endsWord, meetsLetter_append _ hblanks, meetsLetter_append _ hblanks', endsWord]
    have hplace : lowerAt (before ++ blanks) c (rest ++ blanks') = lowerAt before c rest := by
      rw [lowerAt, hends, lowerAt]
    have hrest : lowerFrom (c :: (before ++ blanks)) (rest ++ blanks') =
        lowerFrom (c :: before) rest ++ blanks' := ih (c :: before)
    rw [List.cons_append, lowerFrom, hplace, hrest, lowerFrom, List.append_assoc]

/-- Settled characters stay, and the rest of the text is lowered behind them. -/
theorem lowerFrom_append_of_isSettled {front : List Char} (hfront : ∀ c ∈ front, IsSettled c)
    (cs : List Char) :
    lowerFrom before (front ++ cs) = front ++ lowerFrom (front.reverse ++ before) cs := by
  induction front generalizing before with
  | nil => rfl
  | cons c rest ih =>
    rw [List.forall_mem_cons] at hfront
    rw [List.cons_append, lowerFrom, hfront.1.lowerAt_eq, ih hfront.2, List.reverse_cons,
      List.append_assoc]
    rfl

/-- Blanks around a text stay, and the text is lowered as it is without them. -/
theorem lower_append_blanks (hbefore : ∀ c ∈ before, isBlank c = true)
    (hafter : ∀ c ∈ after, isBlank c = true) (cs : List Char) :
    lower (before ++ cs ++ after) = before ++ lower cs ++ after := by
  have hreverse : ∀ c ∈ before.reverse, isBlank c = true :=
    fun c hc => hbefore c (List.mem_reverse.mp hc)
  have hinner : lowerFrom before.reverse (cs ++ after) = lowerFrom [] cs ++ after :=
    lowerFrom_append_blanks hreverse hafter [] cs
  rw [lower, List.append_assoc,
    lowerFrom_append_of_isSettled fun c hc => isSettled_of_isBlank (hbefore c hc), List.append_nil,
    hinner, lower, List.append_assoc]

/-- **Stripping and lower casing commute.** -/
theorem strip_lower_comm (cs : List Char) : strip (lower cs) = lower (strip cs) := by
  obtain ⟨before, after, hcs, hbefore, hafter⟩ := exists_trimWhile isBlank cs
  have hbare : strip (strip cs) = strip cs := trimWhile_trimWhile isBlank cs
  calc strip (lower cs) = strip (lower (before ++ strip cs ++ after)) := congrArg _ (congrArg _ hcs)
    _ = strip (before ++ lower (strip cs) ++ after) := by rw [lower_append_blanks hbefore hafter]
    _ = strip (lower (strip cs)) := trimWhile_append _ _ hbefore hafter
    _ = lower (strip cs) := strip_lower hbare

/-! ### Keys -/

/-- The lower case of a text. -/
def lowercased (text : String) : String := String.ofList (lower text.toList)

/-- A name may as well be lowered first and stripped then. -/
theorem key_true_eq (name : String) : key true name = stripped (lowercased name) := by
  simp only [key, stripped, lowercased, String.toList_ofList, strip_lower_comm, if_true]

/-- A key has no blanks around it. -/
theorem stripped_key (foldCase : Bool) (name : String) :
    stripped (key foldCase name) = key foldCase name := by
  cases foldCase with
  | false => exact stripped_stripped name
  | true => rw [key_true_eq, stripped_stripped]

/-- The names that are their own keys: no blanks surround them and, where case does not matter, lower
casing leaves each of their characters as it is. -/
theorem key_eq_self_iff {foldCase : Bool} {name : String} : key foldCase name = name ↔
    stripped name = name ∧ (foldCase = true → ∀ c ∈ name.toList, IsSettled c) := by
  constructor
  · intro h
    rw [← h]
    refine ⟨stripped_key foldCase name, ?_⟩
    rintro rfl c hc
    rw [key, String.toList_ofList] at hc
    exact isSettled_of_mem_lowerFrom hc
  · rintro ⟨hbare, hsettled⟩
    cases foldCase with
    | false => exact hbare
    | true =>
      have hlower : lower name.toList = name.toList := lowerFrom_eq_self (hsettled rfl)
      rw [key_true_eq, lowercased, hlower, String.ofList_toList, hbare]

/-- What a normal form of names has to satisfy: a name and its normal form have the same one, blanks
around a name do not matter, and only of blank names nothing is left. -/
structure IsNormalForm (normal : String → String) : Prop where
  idem : ∀ name, normal (normal name) = normal name
  append : ∀ before name after : String, (∀ c ∈ before.toList, isBlank c = true) →
    (∀ c ∈ after.toList, isBlank c = true) → normal (before ++ name ++ after) = normal name
  stripped : ∀ name, normal (stripped name) = normal name
  eq_empty_iff : ∀ name, normal name = "" ↔ ∀ c ∈ name.toList, isBlank c = true

/-- **The key is a normal form of names**, whether or not case matters. -/
theorem key_normalizes (foldCase : Bool) : IsNormalForm (key foldCase) ∧
    (∀ name, key foldCase name = stripped (if foldCase then lowercased name else name)) ∧
    ∀ name, key foldCase name = name ↔
      stripped name = name ∧ (foldCase = true → ∀ c ∈ name.toList, IsSettled c) := by
  refine ⟨⟨key_key foldCase, ?_, key_stripped foldCase, fun _ => key_eq_empty_iff⟩, ?_,
    fun _ => key_eq_self_iff⟩
  · intro before name after hbefore hafter
    exact key_append foldCase name hbefore hafter
  · intro name
    cases foldCase with
    | false => rfl
    | true => exact key_true_eq name

/-- A name with both capitals that have rules of their own, one of them at the end, and with blanks
around it. -/
theorem key_normalizes_between_blanks :
    (∀ c ∈ "\u3000".toList, isBlank c = true) ∧ (∀ c ∈ "\u0085 ".toList, isBlank c = true) ∧
      key true ("\u3000" ++ "İΣΟΣ" ++ "\u0085 ") = key true "İΣΟΣ" ∧
      key true "İΣΟΣ" = "i\u0307σος" := by
  have hbefore : ∀ c ∈ "\u3000".toList, isBlank c = true := forall_mem_of_all (by decide +kernel)
  have hafter : ∀ c ∈ "\u0085 ".toList, isBlank c = true := forall_mem_of_all (by decide +kernel)
  exact ⟨hbefore, hafter, (key_normalizes true).1.append _ _ _ hbefore hafter, by decide +kernel⟩

end IsaNames.Text
