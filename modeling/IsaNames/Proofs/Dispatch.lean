import IsaNames.Proofs.Space

/-!
# Who answers for an ID

A directory looks an ID up in a chart, and the holding that is found spells the ID out.  For every
space that can be reached this comes to the same as going through its holdings in the order of their
registration, so a namer is asked only about IDs of its own range.

## Main definitions

* `AnswersFor` — what a directory has to answer about an ID, given the holdings.

## Main results

* `Chart.spell_ofList`, `Chart.owner_ofList` — an ID is spelled out by the holding that has it, and
  belongs to its owner.
* `SharedSpace.directory_answers_as_scan` — **a directory answers for the holding that has the ID,
  and with the fallback where there is none.**
-/

namespace IsaNames

open Text (Phrase leastTooLong)

variable {ε : Type}

/-- The text that stands for an ID without a name, if the ID can be written. -/
theorem write?_fallbackPhrase (fallback : String) (id : Int) :
    (fallbackPhrase fallback id).write? =
      if id.natAbs < leastTooLong then some (fallback ++ toString id) else none := by
  have hwritable : (fallbackPhrase fallback id).isWritable = Text.isWritable id := by
    simp [fallbackPhrase]
  rw [Phrase.write?, hwritable, Text.isWritable]
  simp [fallbackPhrase]

namespace Chart

variable {holdings : List (Holding ε)} {h : Holding ε} {id : Int}

/-- An ID is spelled out by the namer of the holding that has it. -/
theorem spell_ofList (ha : Apart holdings) (hmem : h ∈ holdings) (hid : id ∈ h.range)
    (fallback : String) (state : ε) :
    Directory.spell (ofList holdings) fallback state id = h.namer state id := by
  rw [Directory.spell, find?_eq_some_of_mem ha hmem hid]

/-- An ID belongs to the owner of the holding that has it. -/
theorem owner_ofList (ha : Apart holdings) (hmem : h ∈ holdings) (hid : id ∈ h.range) :
    ((ofList holdings).find? id).map (·.owner) = some h.owner := by
  rw [find?_eq_some_of_mem ha hmem hid]
  rfl

end Chart

/-- What a directory has to answer about an ID, given the holdings: the owner `owner` and the text
`shown` in each state of what namers may consult. -/
structure AnswersFor (holdings : List (Holding ε)) (fallback : String) (id : Int)
    (shown : ε → Phrase) (owner : Option String) : Prop where
  /-- At most one holding has the ID. -/
  unique : holdings.countP (fun h => id ∈ h.range) ≤ 1
  /-- The holding that has it is the owner's, and its namer is asked about it. -/
  held : ∀ h ∈ holdings, id ∈ h.range →
    owner = some h.owner ∧ ∀ state, shown state = h.namer state id
  /-- An ID that no holding has belongs to nobody, and the fallback and the number stand for it; a
  number of more digits than can be written has no text. -/
  free : (∀ h ∈ holdings, id ∉ h.range) → owner = none ∧ ∀ state, (shown state).write? =
    if id.natAbs < leastTooLong then some (fallback ++ toString id) else none

/-- A chart that finds what the scan finds answers for the holdings. -/
theorem answersFor_of_find? {holdings : List (Holding ε)} (ha : Apart holdings) {c : Chart ε}
    {id : Int} (hc : c.find? id = scan holdings id) (fallback : String) :
    AnswersFor holdings fallback id (Directory.spell c fallback · id)
      ((c.find? id).map (·.owner)) where
  unique := ha.countP_mem_le_one id
  held := by
    intro h hmem hid
    have hf : c.find? id = some h := hc.trans (ha.scan_eq_some_iff.mpr ⟨hmem, hid⟩)
    simp [Directory.spell, hf]
  free := by
    intro hnone
    have hf : c.find? id = none := hc.trans (scan_eq_none_iff.mpr hnone)
    simp [Directory.spell, hf, write?_fallbackPhrase]

namespace SharedSpace

/-- **A directory answers for the holding that has the ID, and with the fallback where there is
none.**  Closing a space always yields a directory, and its charts find what a scan of the holdings
finds. -/
theorem directory_answers_as_scan {s : SharedSpace ε} (hs : s.Reachable) :
    ∃ s' d, close.Ends s s' (.ok d) ∧ ∀ id : Int,
      d.registers.find? id = scan s.registers id ∧ d.opcodes.find? id = scan s.opcodes id ∧
      AnswersFor s.registers "R???" id (d.showRegister · id) (d.registerOwner? id) ∧
      AnswersFor s.opcodes "A???" id (d.showOpcode · id) (d.opcodeOwner? id) := by
  have hregs : Apart s.registers := hs.orderly.apart .registers
  have hops : Apart s.opcodes := hs.orderly.apart .opcodes
  refine ⟨_, _, hs.orderly.ends_close, fun id => ?_⟩
  have hregs' : s.directory.registers.find? id = scan s.registers id := Chart.find?_ofList hregs id
  have hops' : s.directory.opcodes.find? id = scan s.opcodes id := Chart.find?_ofList hops id
  exact ⟨hregs', hops', answersFor_of_find? hregs hregs' _, answersFor_of_find? hops hops' _⟩

/-- Empty ranges that share the base of a full one, or begin where it ends. -/
theorem directory_answers_next_to_empty :
    ∃ s : SharedSpace Unit, s.Reachable ∧
      s.registers.map (·.range) = [⟨5, 0⟩, ⟨5, 3⟩, ⟨8, 0⟩] ∧
      ∃ s' d, close.Ends s s' (.ok d) ∧ ∀ id : Int,
        d.registers.find? id = scan s.registers id ∧ d.opcodes.find? id = scan s.opcodes id ∧
        AnswersFor s.registers "R???" id (d.showRegister · id) (d.registerOwner? id) ∧
        AnswersFor s.opcodes "A???" id (d.showOpcode · id) (d.opcodeOwner? id) := by
  have hcreate : (create [] : Traced (SharedSpace Unit)).outcome =
      .ok (initial [] (Lexicon.Draft.empty Miss.instruction Lexicon.opcodeFallback true
        (some genericOwner)).closed) := rfl
  have hreach := (((Reachable.create hcreate).after
    (.claim .registers ⟨5, 0⟩ (.numbered "a") "a")).after
    (.claim .registers ⟨5, 3⟩ (.numbered "b") "b")).after
    (.claim .registers ⟨8, 0⟩ (.numbered "c") "c")
  exact ⟨_, hreach, rfl, directory_answers_as_scan hreach⟩

/-- An ID that nobody owns and that has more digits than can be written has no text. -/
theorem showRegister_unwritable :
    ∃ s d, (create [] : Traced (SharedSpace Unit)).outcome = .ok s ∧
      (∃ s', close.Ends s s' (.ok d)) ∧
      (∀ h ∈ s.registers, (leastTooLong : Int) ∉ h.range) ∧
      (d.showRegister () (leastTooLong : Int)).write? = none := by
  refine ⟨_, _, rfl, ⟨_, (orderly_initial _ _).ends_close⟩, ?_, ?_⟩
  · intro h hh
    cases hh
  · have hanswers := answersFor_of_find? (apart_nil (ε := Unit))
      (Chart.find?_ofList apart_nil (leastTooLong : Int)) "R???"
    refine ((hanswers.free (List.forall_mem_nil _)).2 ()).trans ?_
    rw [Int.natAbs_natCast, if_neg (Nat.lt_irrefl _)]

end SharedSpace

end IsaNames
