import IsaNames.Proofs.Key

/-!
# Lower case is final

Lower casing a text a second time changes nothing, and it makes no blank out of anything else.  The
rules for two capitals depend on their place, so this is first said of single characters: whatever a
character is lowered to is settled, that is, no rule and no case run applies to it.  For the runs it
comes down to comparing them in pairs.

## Main definitions

* `CaseRun.image` — the span that a run leads into.
* `CaseRun.misses r r'` — where `r` leads, `r'` does not apply.
* `lowerChar` — the lower case of a character to which no rule of its own applies.
* `IsSettled` — a character that lower casing leaves as it is at every place.

## Main results

* `isFinal_of_mem` — no run of lower case applies where one of them leads.
* `lowerAt_spec` — what a character is lowered to is settled, and blank only if the character is.
* `lower_lower` — **lower casing twice is lower casing once.**
* `strip_lower` — a text without surrounding blanks has none in lower case.
* `key_key` — **the key of a key is the key itself.**
* `key_append_toString` — most numbered names are their own keys.
-/

namespace IsaNames.Text

/-! ### Runs -/

namespace Span

variable {s t : Span} {n : Nat}

theorem covers_iff : s.covers n = true ↔ s.first ≤ n ∧ n ≤ s.last := by
  simp [covers]

/-- Two spans without a common code point. -/
def isApart (s t : Span) : Bool := s.last.blt t.first || t.last.blt s.first

theorem covers_of_isApart (h : s.isApart t = true) (hn : s.covers n = true) :
    t.covers n = false := by
  simp only [isApart, Bool.or_eq_true, Nat.blt_eq] at h
  rw [covers_iff] at hn
  rw [Bool.eq_false_iff, Ne, covers_iff]
  omega

end Span

namespace CaseRun

variable {r r' : CaseRun} {n : Nat}

theorem covers_iff :
    r.covers n = true ↔ r.first ≤ n ∧ n ≤ r.last ∧ (n - r.first) % r.step = 0 := by
  simp [covers, and_assoc]

/-- The span from the image of the first code point of a run to that of the last. -/
def image (r : CaseRun) : Span := ⟨(r.first + r.shift).toNat, (r.last + r.shift).toNat⟩

/-- No image of a code point of `r` belongs to `r'`: the images are elsewhere, or they lie between
the code points of `r'`, because they do not even have their remainder. -/
def misses (r r' : CaseRun) : Bool :=
  r.image.isApart ⟨r'.first, r'.last⟩ ||
    ((r.first == r.last || r.step % r'.step == 0) &&
      r.image.first % r'.step != r'.first % r'.step)

/-- The image of a code point lies in the span, as far from the first image as the code point is from
the first one. -/
theorem image_spec (hr : 0 ≤ r.first + r.shift) (hn : r.covers n = true) :
    (n + r.shift).toNat = r.image.first + (n - r.first) ∧
      r.image.covers (n + r.shift).toNat = true := by
  obtain ⟨hfirst, hlast, -⟩ := covers_iff.mp hn
  rw [Span.covers_iff]
  simp only [image]
  omega

/-- The images of a run belong to no run that it misses. -/
theorem covers_of_misses (hr : 0 ≤ r.first + r.shift) (h : r.misses r' = true)
    (hn : r.covers n = true) : r'.covers (n + r.shift).toNat = false := by
  obtain ⟨himage, hspan⟩ := image_spec hr hn
  obtain ⟨hfirst, hlast, hstep⟩ := covers_iff.mp hn
  rw [Bool.eq_false_iff]
  intro hcovers
  obtain ⟨hfirst', hlast', hstep'⟩ := covers_iff.mp hcovers
  rw [misses, Bool.or_eq_true] at h
  rcases h with hapart | hbetween
  · have hin : Span.covers ⟨r'.first, r'.last⟩ (n + r.shift).toNat = true :=
      Span.covers_iff.mpr ⟨hfirst', hlast'⟩
    rw [Span.covers_of_isApart hapart hspan] at hin
    cases hin
  · simp only [Bool.and_eq_true, Bool.or_eq_true, beq_iff_eq, bne_iff_ne] at hbetween
    obtain ⟨hsteps, hmod⟩ := hbetween
    -- the distance from the first image is a number of steps of `r'`, and so would be that from the
    -- first code point of `r'`
    have hdist : r'.step ∣ n - r.first := by
      rcases hsteps with hsingle | hdvd
      · rw [show n - r.first = 0 by omega]
        exact Nat.dvd_zero _
      · exact Nat.dvd_trans (Nat.dvd_of_mod_eq_zero hdvd) (Nat.dvd_of_mod_eq_zero hstep)
    obtain ⟨k, hk⟩ := hdist
    obtain ⟨k', hk'⟩ := Nat.dvd_of_mod_eq_zero hstep'
    have hsame : r.image.first + r'.step * k = r'.first + r'.step * k' := by omega
    apply hmod
    rw [← Nat.add_mul_mod_self_left r.image.first r'.step k, hsame, Nat.add_mul_mod_self_left]

/-- A code point of no run is its own image. -/
theorem map_eq_self {runs : List CaseRun} (h : ∀ r ∈ runs, r.covers n = false) :
    map runs n = n := by
  have hnone : runs.find? (fun r => r.covers n) = none := by simpa using h
  rw [map, hnone]

/-- A code point is mapped by the shift of a run that covers it, if there is one. -/
theorem map_cases (runs : List CaseRun) (n : Nat) :
    (∃ r ∈ runs, r.covers n = true ∧ map runs n = (n + r.shift).toNat) ∨ map runs n = n := by
  cases hfind : runs.find? (fun r => r.covers n) with
  | some r =>
    have hcovers : r.covers n = true := List.find?_some (p := fun r : CaseRun => r.covers n) hfind
    refine Or.inl ⟨r, List.mem_of_find?_eq_some hfind, hcovers, ?_⟩
    rw [map, hfind]
  | none =>
    refine Or.inr ?_
    rw [map, hfind]

end CaseRun

/-- Code points that nothing is lowered to: the two capitals with rules of their own, those of no
character, and the blanks. -/
def reservedSpans : List Span :=
  ⟨0x130, 0x130⟩ :: ⟨0x3a3, 0x3a3⟩ :: ⟨0xd800, 0xdfff⟩ :: blankSpans

/-- Where a run leads there are characters, none of them reserved, and no run applies. -/
def CaseRun.isFinal (r : CaseRun) : Bool :=
  0 ≤ r.first + r.shift && r.image.last.blt 0x110000 && reservedSpans.all r.image.isApart &&
    lowerRuns.all r.misses

/-- No run of lower case applies where one of them leads. -/
theorem isFinal_of_mem : ∀ r ∈ lowerRuns, r.isFinal = true := by
  have hall : (lowerRuns.all fun r => r.isFinal) = true := by decide +kernel
  exact List.all_eq_true.mp hall

/-- The image of a code point is that of a character, is not reserved, and belongs to no run. -/
theorem CaseRun.isFinal_spec {r : CaseRun} (h : r.isFinal = true) {n : Nat}
    (hn : r.covers n = true) :
    (n + r.shift).toNat.isValidChar ∧
      (∀ s ∈ reservedSpans, s.covers (n + r.shift).toNat = false) ∧
      ∀ r' ∈ lowerRuns, r'.covers (n + r.shift).toNat = false := by
  simp only [isFinal, Bool.and_eq_true, decide_eq_true_eq, List.all_eq_true, Nat.blt_eq] at h
  obtain ⟨⟨⟨hbase, hlimit⟩, hreserved⟩, hruns⟩ := h
  have hspan := (image_spec hbase hn).2
  have hfree : ∀ s ∈ reservedSpans, s.covers (n + r.shift).toNat = false :=
    fun s hs => Span.covers_of_isApart (hreserved s hs) hspan
  refine ⟨?_, hfree, fun r' hr' => covers_of_misses hbase (hruns r' hr') hn⟩
  have hsurrogate := hfree ⟨0xd800, 0xdfff⟩ (by simp [reservedSpans])
  rw [Bool.eq_false_iff, Ne, Span.covers_iff] at hsurrogate
  rw [Span.covers_iff] at hspan
  dsimp only at hsurrogate
  unfold Nat.isValidChar
  omega

/-! ### Characters -/

/-- The lower case of a character to which no rule of its own applies. -/
def lowerChar (c : Char) : Char := Char.ofNat (CaseRun.map lowerRuns c.toNat)

/-- A character that lower casing leaves as it is at every place. -/
structure IsSettled (c : Char) : Prop where
  ne_sigma : c ≠ 'Σ'
  ne_dotted : c ≠ 'İ'
  lowerChar_eq : lowerChar c = c

/-- Unless a rule of its own applies to it, a character is lowered to a settled one, which is blank
only if the character is. -/
theorem lowerChar_spec {c : Char} (hsigma : c ≠ 'Σ') (hdotted : c ≠ 'İ') :
    IsSettled (lowerChar c) ∧ (isBlank c = false → isBlank (lowerChar c) = false) := by
  rcases CaseRun.map_cases lowerRuns c.toNat with ⟨r, hr, hc, hmap⟩ | hmap
  · obtain ⟨hvalid, hfree, hruns⟩ := CaseRun.isFinal_spec (isFinal_of_mem r hr) hc
    have hcode : (lowerChar c).toNat = (c.toNat + r.shift).toNat := by
      rw [lowerChar, hmap, Char.ofNat, dif_pos hvalid]
      rfl
    have hne : ∀ d : Char, ⟨d.toNat, d.toNat⟩ ∈ reservedSpans → lowerChar c ≠ d := by
      intro d hd heq
      have hout := hfree _ hd
      rw [← hcode, heq] at hout
      simp [Span.covers] at hout
    refine ⟨⟨hne 'Σ' (by decide), hne 'İ' (by decide), ?_⟩, fun _ => ?_⟩
    · have hself := CaseRun.map_eq_self hruns
      rw [← hcode] at hself
      rw [lowerChar, hself, Char.ofNat_toNat]
    · rw [isBlank, Span.anyCovers, hcode, List.any_eq_false]
      intro s hs
      rw [hfree s (by simp [reservedSpans, hs])]
      exact Bool.false_ne_true
  · have hself : lowerChar c = c := by rw [lowerChar, hmap, Char.ofNat_toNat]
    rw [hself]
    exact ⟨⟨hsigma, hdotted, hself⟩, id⟩

variable {before after : List Char} {c d : Char}

/-- The characters that the rules for the two capitals lead to: the final and the medial sigma, the
small i and its dot. -/
def ruleImages : List Char := ['ς', 'σ', 'i', '\u0307']

/-- They are settled, and none is blank. -/
theorem ruleImages_spec : ∀ d ∈ ruleImages, IsSettled d ∧ isBlank d = false := by
  intro d hd
  simp only [ruleImages, List.mem_cons, List.not_mem_nil, or_false] at hd
  rcases hd with rfl | rfl | rfl | rfl <;>
    exact ⟨⟨by decide, by decide, by decide +kernel⟩, by decide +kernel⟩

/-- A character is lowered by a rule, or to the character that its run leads to; something is left of
it either way. -/
theorem lowerAt_cases (before : List Char) (c : Char) (after : List Char) :
    lowerAt before c after ≠ [] ∧ lowerAt before c after ⊆ ruleImages ∨
      c ≠ 'Σ' ∧ c ≠ 'İ' ∧ lowerAt before c after = [lowerChar c] := by
  unfold lowerAt
  split
  · split <;> exact Or.inl (by decide)
  · next hsigma =>
    split
    · exact Or.inl (by decide)
    · next hdotted => exact Or.inr ⟨hsigma, hdotted, rfl⟩

theorem lowerAt_ne_nil (before : List Char) (c : Char) (after : List Char) :
    lowerAt before c after ≠ [] := by
  rcases lowerAt_cases before c after with ⟨hne, -⟩ | ⟨-, -, hlow⟩
  · exact hne
  · rw [hlow]
    exact List.cons_ne_nil _ _

/-- What a character is lowered to is settled, and none of it is blank unless the character is. -/
theorem lowerAt_spec (h : d ∈ lowerAt before c after) :
    IsSettled d ∧ (isBlank c = false → isBlank d = false) := by
  rcases lowerAt_cases before c after with ⟨-, hrules⟩ | ⟨hsigma, hdotted, hlow⟩
  · obtain ⟨hsettled, hblank⟩ := ruleImages_spec d (hrules h)
    exact ⟨hsettled, fun _ => hblank⟩
  · rw [hlow, List.mem_singleton] at h
    rw [h]
    exact lowerChar_spec hsigma hdotted

/-- A settled character stays. -/
theorem IsSettled.lowerAt_eq (h : IsSettled c) (before after : List Char) :
    lowerAt before c after = [c] := by
  rw [lowerAt, if_neg h.ne_sigma, if_neg h.ne_dotted]
  exact congrArg (fun d => [d]) h.lowerChar_eq

/-! ### Texts -/

/-- All characters of a lowered text are settled. -/
theorem isSettled_of_mem_lowerFrom {before cs : List Char} (h : d ∈ lowerFrom before cs) :
    IsSettled d := by
  induction cs generalizing before with
  | nil => cases h
  | cons c after ih =>
    rcases List.mem_append.mp h with h | h
    · exact (lowerAt_spec h).1
    · exact ih h

/-- A text of settled characters stays. -/
theorem lowerFrom_eq_self {before cs : List Char} (h : ∀ c ∈ cs, IsSettled c) :
    lowerFrom before cs = cs := by
  induction cs generalizing before with
  | nil => rfl
  | cons c after ih =>
    rw [List.forall_mem_cons] at h
    rw [lowerFrom, h.1.lowerAt_eq, ih h.2]
    rfl

/-- **Lower casing twice is lower casing once.** -/
theorem lower_lower (cs : List Char) : lower (lower cs) = lower cs :=
  lowerFrom_eq_self fun _ h => isSettled_of_mem_lowerFrom h

/-- The last character of a text is lowered last. -/
theorem exists_lowerFrom_concat (before cs : List Char) (c : Char) :
    ∃ front, lowerFrom before (cs ++ [c]) = front ++ lowerAt (cs.reverse ++ before) c [] := by
  induction cs generalizing before with
  | nil => exact ⟨[], by simp [lowerFrom]⟩
  | cons d rest ih =>
    obtain ⟨front, hfront⟩ := ih (d :: before)
    refine ⟨lowerAt before d (rest ++ [c]) ++ front, ?_⟩
    rw [List.cons_append, lowerFrom, hfront, List.reverse_cons, List.append_assoc,
      List.append_assoc]
    rfl

/-- A text has no surrounding blanks if neither its first nor its last character is one. -/
theorem strip_eq_self_iff {cs : List Char} :
    strip cs = cs ↔ (∀ c rest, cs = c :: rest → isBlank c = false) ∧
      ∀ front c, cs = front ++ [c] → isBlank c = false := by
  constructor
  · intro h
    have hfirst : cs.dropWhile isBlank = cs := by
      have hdrop := dropWhile_trimWhile isBlank cs
      rwa [show trimWhile isBlank cs = cs from h] at hdrop
    have hlast : cs.rdropWhile isBlank = cs := by
      rwa [strip, trimWhile_eq_rdropWhile, hfirst] at h
    rw [List.dropWhile_eq_self_iff] at hfirst
    rw [List.rdropWhile_eq_self_iff] at hlast
    constructor
    · rintro c rest rfl
      simpa using hfirst (Nat.succ_pos _)
    · rintro front c rfl
      simpa using hlast (List.concat_ne_nil c front)
  · rintro ⟨hfirst, hlast⟩
    rcases cs.eq_nil_or_concat' with rfl | ⟨front, last, hcs⟩
    · rfl
    have hdrop : cs.dropWhile isBlank = cs := by
      cases cs with
      | nil => rfl
      | cons c rest => rw [List.dropWhile_cons, hfirst c rest rfl, if_neg Bool.false_ne_true]
    rw [strip, trimWhile_eq_rdropWhile, hdrop, List.rdropWhile_eq_self_iff]
    intro hne
    subst hcs
    simp [hlast front last rfl]

/-- A text without surrounding blanks has none in lower case. -/
theorem strip_lower {cs : List Char} (h : strip cs = cs) : strip (lower cs) = lower cs := by
  rw [strip_eq_self_iff] at h ⊢
  obtain ⟨hfirst, hlast⟩ := h
  constructor
  · intro d rest hd
    cases cs with
    | nil => cases hd
    | cons c after =>
      obtain ⟨d', low, hlow⟩ := List.exists_cons_of_ne_nil (lowerAt_ne_nil [] c after)
      have hmem : d' ∈ lowerAt [] c after := by simp [hlow]
      rw [lower, lowerFrom, hlow, List.cons_append, List.cons.injEq] at hd
      rw [← hd.1]
      exact (lowerAt_spec hmem).2 (hfirst c after rfl)
  · intro low d hd
    rcases cs.eq_nil_or_concat' with rfl | ⟨front, c, rfl⟩
    · simp [lower, lowerFrom] at hd
    · obtain ⟨low', hlow'⟩ := exists_lowerFrom_concat [] front c
      obtain ⟨low'', d', hlow⟩ := (lowerAt (front.reverse ++ []) c []).eq_nil_or_concat'.resolve_left
        (lowerAt_ne_nil _ _ _)
      have hmem : d' ∈ lowerAt (front.reverse ++ []) c [] := by
        rw [hlow]
        exact List.mem_concat_self
      rw [lower, hlow', hlow, ← List.append_assoc] at hd
      obtain ⟨-, hlast'⟩ := List.append_inj' hd rfl
      rw [← List.singleton_inj.mp hlast']
      exact (lowerAt_spec hmem).2 (hlast front c rfl)

/-- The decimal digits are settled. -/
theorem isSettled_of_isDigit {c : Char} (h : c.isDigit = true) : IsSettled c := by
  have hruns : ∀ n ∈ List.range' 48 10, CaseRun.map lowerRuns n = n := by decide +kernel
  rw [Char.isDigit_iff_toNat, show '0'.toNat = 48 from rfl, show '9'.toNat = 57 from rfl] at h
  refine ⟨?_, ?_, ?_⟩
  · rintro rfl
    revert h
    decide
  · rintro rfl
    revert h
    decide
  · rw [lowerChar, hruns _ (List.mem_range'_1.mpr (by omega)), Char.ofNat_toNat]

/-! ### Keys -/

/-- **The key of a key is the key itself.** -/
theorem key_key (foldCase : Bool) (name : String) :
    key foldCase (key foldCase name) = key foldCase name := by
  have hbare : strip (strip name.toList) = strip name.toList := trimWhile_trimWhile _ _
  cases foldCase with
  | false => simp [key, hbare]
  | true => simp [key, strip_lower hbare, lower_lower]

/-- A stem without blanks, followed by a number, has no blanks. -/
theorem isBlank_of_mem_append_toString {stem : String} (hstem : ∀ c ∈ stem.toList, isBlank c = false)
    (n : Nat) : ∀ c ∈ (stem ++ toString n).toList, isBlank c = false := by
  intro c hc
  rw [String.toList_append, List.mem_append, Nat.toString_eq_repr, Nat.toList_repr] at hc
  rcases hc with hc | hc
  · exact hstem c hc
  · exact isBlank_of_isDigit (Nat.isDigit_of_mem_toDigits (by decide) (by decide) hc)

/-- So it is shown as it is. -/
theorem stripped_append_toString {stem : String} (hstem : ∀ c ∈ stem.toList, isBlank c = false)
    (n : Nat) : stripped (stem ++ toString n) = stem ++ toString n := by
  rw [stripped, strip, trimWhile_eq_self (isBlank_of_mem_append_toString hstem n),
    String.ofList_toList]

/-- A stem of settled characters without blanks, followed by a number, is its own key. -/
theorem key_append_toString {stem : String}
    (hstem : ∀ c ∈ stem.toList, IsSettled c ∧ isBlank c = false) (foldCase : Bool) (n : Nat) :
    key foldCase (stem ++ toString n) = stem ++ toString n := by
  have hstrip : strip (stem ++ toString n).toList = (stem ++ toString n).toList :=
    trimWhile_eq_self (isBlank_of_mem_append_toString (fun c hc => (hstem c hc).2) n)
  have hlower : lower (stem ++ toString n).toList = (stem ++ toString n).toList := by
    refine lowerFrom_eq_self fun c hc => ?_
    rw [String.toList_append, List.mem_append, Nat.toString_eq_repr, Nat.toList_repr] at hc
    rcases hc with hc | hc
    · exact (hstem c hc).1
    · exact isSettled_of_isDigit (Nat.isDigit_of_mem_toDigits (by decide) (by decide) hc)
  rw [key]
  simp only [hstrip, hlower, ite_self, String.ofList_toList]

end IsaNames.Text
