import IsaNames.Proofs.CommandRun
import IsaNames.Proofs.NameLists
import Mathlib.Data.List.Perm.Basic

/-!
# What a dump lists

A dump has one line for each ID that is shown by a name, in increasing order.  On it stand the name
that the ID is shown by and its other names.  In the lexicons of an architecture every name stands
for an ID that is shown, so a dump loses no name; and since the key of the name that is shown is
left out of the others, it repeats none.

## Main definitions

* `Lexicon.Row`, `Lexicon.rows` — the lines of a dump as data.
* `Lexicon.Full` — a lexicon in which every name stands for an ID that is shown.
* `Lexicon.ListedBy` — rows that give a lexicon as a whole.

## Main results

* `Lexicon.Full.listedBy_rows` — **the rows of a full lexicon give it as a whole.**
* `Declaration.full_registers`, `Declaration.full_opcodes` — the lexicons that are built are full.
* `CommandLine.dump_lists` — **a dump prints rows that give the lexicon of the architecture as a
  whole.**
-/

namespace IsaNames

open Text (leastTooLong)

namespace Lexicon

/-! ### Rows -/

/-- An ID, the name that it is shown by, and its other names. -/
structure Row where
  id : Int
  shown : String
  aliases : List String
  deriving DecidableEq, Repr

/-- The keys of all names in a row of a lexicon. -/
def Row.names (x : Lexicon) (r : Row) : List String := x.key r.shown :: r.aliases

/-- The line of a row: three columns, the last of which is a list. -/
def Row.line (r : Row) : String :=
  toString r.id ++ "\t" ++ r.shown ++ "\t" ++ ",".intercalate r.aliases ++ "\n"

/-- The IDs that are shown by names, in increasing order, with all their names. -/
def rows (x : Lexicon) : List Row := x.displayed.map fun e => ⟨e.1, e.2, x.aliases e.1⟩

/-- A normal lexicon in which every name stands for an ID that is shown by a name. -/
structure Full (x : Lexicon) : Prop extends x.Normal where
  hasDisplay : ∀ e ∈ x.entries, x.hasDisplay e.2 = true

/-- The rows have an ID for which `P` holds each, and together they have every name of the lexicon
once. -/
structure ListedBy (x : Lexicon) (P : Int → Prop) (rows : List Row) : Prop where
  increasing : (rows.map (·.id)).Pairwise (· < ·)
  mem_ids_iff : ∀ id, id ∈ rows.map (·.id) ↔ P id
  display : ∀ r ∈ rows, (x.display r.id).write? = some r.shown
  /-- The names of a row stand for its ID. -/
  idOf : ∀ r ∈ rows, ∀ name ∈ r.names x, x.idOf name = .ok r.id
  /-- Each name of the lexicon is in one row, and there once. -/
  names_perm : (rows.flatMap (·.names x)).Perm x.names
  names_nodup : x.names.Nodup
  /-- The other names of an ID stand in the order in which they were first used. -/
  aliases_sublist : ∀ r ∈ rows, r.aliases.Sublist x.names

variable {x : Lexicon}

theorem map_id_rows (x : Lexicon) : x.rows.map (·.id) = x.displayed.map (·.1) := by
  rw [rows, List.map_map]
  rfl

/-- A row comes from an ID and the name it is shown by. -/
theorem Sound.exists_of_mem_rows (hx : x.Sound) {r : Row} (hr : r ∈ x.rows) :
    x.display? r.id = some r.shown ∧ r.aliases = x.aliases r.id := by
  obtain ⟨e, he, rfl⟩ := List.mem_map.mp hr
  rw [displayed, List.mem_mergeSort] at he
  exact ⟨hx.display?_eq_some_iff.mpr he, rfl⟩

/-- The IDs of the rows increase, because each ID is shown by one name. -/
theorem Sound.increasing_rows (hx : x.Sound) : (x.rows.map (·.id)).Pairwise (· < ·) := by
  rw [map_id_rows]
  have hle : (x.displayed.map (·.1)).Pairwise (· ≤ ·) :=
    List.pairwise_map.mpr (List.pairwise_mergeSort_fst _)
  have hnodup : (x.displayed.map (·.1)).Nodup :=
    ((List.mergeSort_perm _ _).map _).nodup_iff.mpr hx.ids_nodup
  exact (hle.and hnodup).imp fun h => Int.lt_iff_le_and_ne.mpr h

/-- The names of a row are those of its ID. -/
theorem Sound.names_row_perm (hx : x.Sound) {r : Row} (hr : r ∈ x.rows) :
    (r.names x).Perm (x.namesOf r.id) := by
  obtain ⟨hshown, haliases⟩ := hx.exists_of_mem_rows hr
  rw [Row.names, namesOf, haliases, hshown]
  exact (List.perm_append_singleton _ _).symm

/-- The names of all rows are those of their IDs. -/
theorem Sound.names_rows_perm (hx : x.Sound) :
    (x.rows.flatMap (·.names x)).Perm ((x.rows.map (·.id)).flatMap x.namesOf) := by
  rw [List.flatMap_map]
  exact List.Perm.flatMap_left _ fun r hr => hx.names_row_perm hr

theorem mem_ids_rows_iff {id : Int} : id ∈ x.rows.map (·.id) ↔ x.hasDisplay id = true := by
  rw [map_id_rows]
  exact CommandLine.mem_displayed_iff

/-- In a full lexicon every name stands for the ID of a row. -/
theorem Full.mem_ids_rows (hx : x.Full) {k : String} (hk : k ∈ x.names) {id : Int}
    (hid : x.idOf? k = some id) : id ∈ x.rows.map (·.id) :=
  mem_ids_rows_iff.mpr (hx.hasDisplay (k, id) (hx.mem_entries_iff.mpr ⟨hk, hid⟩))

/-- **The rows of a full lexicon give it as a whole.** -/
theorem Full.listedBy_rows (hx : x.Full) : x.ListedBy (x.hasDisplay · = true) x.rows where
  increasing := hx.increasing_rows
  mem_ids_iff := fun _ => mem_ids_rows_iff
  display := by
    intro r hr
    rw [Lexicon.display, (hx.exists_of_mem_rows hr).1]
    rfl
  idOf := by
    intro r hr name hname
    rw [(hx.names_row_perm hr).mem_iff, hx.mem_namesOf_iff] at hname
    exact idOf_eq_ok_iff.mpr (hx.mem_entries_iff.mp hname).2
  names_perm := by
    have hids : (x.rows.map (·.id)).Nodup := hx.increasing_rows.imp Int.ne_of_lt
    exact hx.names_rows_perm.trans
      (hx.partedByIds.flatMap_perm _ hids fun _ hk _ hid => hx.mem_ids_rows hk hid)
  names_nodup := hx.names_nodup
  aliases_sublist := by
    intro r hr
    rw [(hx.exists_of_mem_rows hr).2]
    exact aliases_sublist x r.id

/-- The text of a dump is that of its rows. -/
theorem dumpText_eq (x : Lexicon) :
    CommandLine.dumpText x = String.join (x.rows.map Row.line) := by
  rw [CommandLine.dumpText, CommandLine.dumpLines, rows, List.map_map, List.map_map]
  refine congrArg String.join (List.map_congr_left fun e _ => ?_)
  simp [CommandLine.dumpLine, CommandLine.onLine, Row.line]

end Lexicon

/-! ### The lexicons of an architecture -/

open Lexicon (Draft Full)

/-- The register lexicon that is built from a declaration is full. -/
theorem Declaration.full_registers {d : Declaration} {generic : List String} {a : Architecture}
    (h : (d.build generic).outcome = .ok a) : a.registers.Full := by
  have ha := complete_of_build h
  obtain ⟨x, ranges, hregs, -, rfl⟩ := build_eq_ok_iff.mp h
  obtain ⟨given, hrows⟩ := rowsOf_of_buildRegisters hregs
  have hnormal := hrows.normal
  refine { hnormal with hasDisplay := fun e he => ?_ }
  have hid := hnormal.idOf?_of_mem he
  exact ha.register_shown e.2 (ha.register_mem e.1 e.2 (Lexicon.idOf_eq_ok_iff.mpr hid))

/-- So is the lexicon of the mnemonics. -/
theorem Declaration.full_opcodes {d : Declaration} {generic : List String} {a : Architecture}
    (h : (d.build generic).outcome = .ok a) : a.opcodes.Full := by
  have ha := complete_of_build h
  obtain ⟨x, ranges, -, -, rfl⟩ := build_eq_ok_iff.mp h
  have hkey : ∀ e ∈ (d.opcodeDraft generic).content.entries,
      (d.opcodeDraft generic).content.key e.1 = e.1 := by
    intro e he
    have hname : e.1 ∈ (generic ++ d.mnemonics).map (Text.key true) := by
      rw [← names_opcodeDraft]
      exact List.mem_map_of_mem he
    obtain ⟨name, -, hk⟩ := List.mem_map.mp hname
    rw [← hk]
    exact Text.key_key true name
  have hnormal : (d.opcodeDraft generic).content.Normal := { ha.opcodes_sound with key_key := hkey }
  refine { hnormal with hasDisplay := fun e he => ?_ }
  have hid := hnormal.idOf?_of_mem he
  exact ha.opcode_shown e.2 (ha.opcode_mem e.1 e.2 (Lexicon.idOf_eq_ok_iff.mpr hid))

/-! ### Dumps -/

namespace CommandLine

/-- The lexicon that is dumped. -/
def dumped (a : Architecture) (opcodes : Bool) : Lexicon :=
  if opcodes then a.opcodes else a.registers

/-- The IDs of a dump: the registers of the architecture, or the opcodes of the generic mnemonics
and of its own. -/
def IsDumped (generic : List String) (a : Architecture) : Bool → Int → Prop
  | false, id => id ∈ a.registerRange
  | true, id => (0 ≤ id ∧ id < generic.length) ∨ id ∈ a.opcodeRange

/-- The rows of an architecture that was built give the whole lexicon. -/
theorem listedBy_rows_of_build {d : Declaration} {generic : List String} {a : Architecture}
    (h : (d.build generic).outcome = .ok a) (opcodes : Bool) :
    (dumped a opcodes).ListedBy (IsDumped generic a opcodes) (dumped a opcodes).rows := by
  have ha := Declaration.complete_of_build h
  cases opcodes with
  | false =>
    have hrows := (Declaration.full_registers h).listedBy_rows
    exact { hrows with mem_ids_iff := fun id => (hrows.mem_ids_iff id).trans ha.register_shown_iff }
  | true =>
    have hrows := (Declaration.full_opcodes h).listedBy_rows
    refine { hrows with mem_ids_iff := fun id => (hrows.mem_ids_iff id).trans ?_ }
    rw [ha.opcode_shown_iff, mem_genericRange_iff]
    rfl

variable {edition : Edition} {generic : List String} {declarations : List Declaration}
  {args : List String}

/-- **A dump loses and repeats no name.**  Its lines are rows that give the lexicon of the
architecture as a whole; all of them are printed, unless one of the IDs has too many digits. -/
theorem dump_lists {level : Option String} {name : String} {opcodes : Bool} {dir : Directory Unit}
    {a : Architecture} (hstart : (Startup.ofDeclarations generic declarations).outcome = .ok dir)
    (ha : dir.architecture name = .ok a)
    (hread : Request.read edition args = .accepted ⟨level, .dump name opcodes⟩) :
    ∃ rows, (dumped a opcodes).ListedBy (IsDumped generic a opcodes) rows ∧
      ((∀ r ∈ rows, r.id.natAbs < leastTooLong) →
        runBy edition generic declarations args = .exit ⟨0, String.join (rows.map (·.line)),
          shownLog level
            (Startup.ofDeclarations generic declarations : Traced (Directory Unit)).log⟩) ∧
      ((∃ r ∈ rows, leastTooLong ≤ r.id.natAbs) →
        runBy edition generic declarations args = .escape (.fault .numberTooLong)) := by
  obtain ⟨hbuilt, -, -⟩ := Startup.ofDeclarations_spec hstart
  obtain ⟨d, hd⟩ := List.exists_of_forall₂_of_mem hbuilt
    ((Startup.serves_of_ok hstart).mem_of_architecture ha)
  have hbuild := Provider.build_of_fresh hd
  have hprint : Command.print dir () (.dump name opcodes) =
      printLines "" (dumpLines (dumped a opcodes)) := Command.print_dump ha opcodes
  have hids : ∀ id, id ∈ (dumped a opcodes).rows.map (·.id) ↔
      (dumped a opcodes).hasDisplay id = true := by
    intro id
    rw [Lexicon.map_id_rows]
    exact mem_displayed_iff
  refine ⟨(dumped a opcodes).rows, listedBy_rows_of_build hbuild opcodes, ?_, ?_⟩
  · intro hshort
    rw [runBy_of_accepted hread, ← Lexicon.dumpText_eq]
    refine Request.run_of_print hstart (hprint.trans (printLines_dumpLines ?_))
    intro id hid
    obtain ⟨r, hr, rfl⟩ := List.mem_map.mp ((hids id).mpr hid)
    exact hshort r hr
  · rintro ⟨r, hr, hlong⟩
    obtain ⟨out, hout⟩ :=
      printLines_dumpLines_tooLong ((hids r.id).mp (List.mem_map_of_mem hr)) hlong
    rw [runBy_of_accepted hread]
    exact Request.run_of_escape hstart (hprint.trans hout)

/-- A start in which an architecture that a name leads to passes a test. -/
theorem exists_architecture_of_start {name : String} {p : Architecture → Bool}
    (h : (((Startup.ofDeclarations generic declarations : Traced (Directory Unit)).outcome.bind
      fun dir => (dir.architecture name).mapError Fault.miss).map p) = .ok true) :
    ∃ (dir : Directory Unit) (a : Architecture),
      (Startup.ofDeclarations generic declarations).outcome = .ok dir ∧
      dir.architecture name = .ok a ∧ p a = true := by
  cases hstart :
    (Startup.ofDeclarations generic declarations : Traced (Directory Unit)).outcome with
  | error e =>
    rw [hstart] at h
    cases h
  | ok dir =>
    rw [hstart, Except.bind] at h
    cases ha : dir.architecture name with
    | error m =>
      rw [ha] at h
      cases h
    | ok a =>
      rw [ha] at h
      exact ⟨dir, a, rfl, ha, Except.ok.inj h⟩

/-- Registers that are shown by names of the calling convention, one of which has a third name. -/
theorem dump_lists_of_overlaid :
    ∃ (dir : Directory Unit) (a : Architecture),
      (Startup.ofDeclarations ["nop"] [⟨"x", 0, [⟨"r", 2, true⟩],
        [("Zero", "r0"), ("one", "R1"), ("nil", "ZERO")], 1, []⟩]).outcome = .ok dir ∧
      dir.architecture "X" = .ok a ∧
      Request.read .earlier ["dump", "X"] = .accepted ⟨none, .dump "X" false⟩ ∧
      ∃ rows, (dumped a false).ListedBy (IsDumped ["nop"] a false) rows ∧
        ((∀ r ∈ rows, r.id.natAbs < leastTooLong) →
          run ["nop"] [⟨"x", 0, [⟨"r", 2, true⟩],
            [("Zero", "r0"), ("one", "R1"), ("nil", "ZERO")], 1, []⟩] ["dump", "X"] =
              .exit ⟨0, String.join (rows.map (·.line)), ""⟩) ∧
        ((∃ r ∈ rows, leastTooLong ≤ r.id.natAbs) →
          run ["nop"] [⟨"x", 0, [⟨"r", 2, true⟩],
            [("Zero", "r0"), ("one", "R1"), ("nil", "ZERO")], 1, []⟩] ["dump", "X"] =
              .escape (.fault .numberTooLong)) := by
  have hread : Request.read .earlier ["dump", "X"] = .accepted ⟨none, .dump "X" false⟩ := by decide +kernel
  have hfound : ((Startup.ofDeclarations ["nop"] [⟨"x", 0, [⟨"r", 2, true⟩],
      [("Zero", "r0"), ("one", "R1"), ("nil", "ZERO")], 1, []⟩] :
        Traced (Directory Unit)).outcome.bind fun dir =>
          (dir.architecture "X").mapError Fault.miss).map (fun a => a.name == "x") = .ok true := by
    decide +kernel
  obtain ⟨dir, a, hstart, ha, -⟩ := exists_architecture_of_start hfound
  exact ⟨dir, a, hstart, ha, hread, dump_lists hstart ha hread⟩

/-- A dump of two registers, the second of which has an ID with too many digits. -/
theorem dump_escapes :
    ∃ (d : Declaration) (dir : Directory Unit) (a : Architecture),
      (d.registerBase = ((leastTooLong - 1 : Nat) : Int) ∧ d.banks = [⟨"r", 2, false⟩]) ∧
      (Startup.ofDeclarations [] [d]).outcome = .ok dir ∧ dir.architecture "x" = .ok a ∧
      Request.read .earlier ["dump", "x"] = .accepted ⟨none, .dump "x" false⟩ ∧
      run [] [d] ["dump", "x"] = .escape (.fault .numberTooLong) := by
  have hread : Request.read .earlier ["dump", "x"] = .accepted ⟨none, .dump "x" false⟩ := by decide +kernel
  have hfound : ((Startup.ofDeclarations [] [⟨"x", ((leastTooLong - 1 : Nat) : Int),
      [⟨"r", 2, false⟩], [], 0, []⟩] : Traced (Directory Unit)).outcome.bind fun dir =>
        (dir.architecture "x").mapError Fault.miss).map
          (fun a => decide ((leastTooLong : Int) ∈ a.registerRange)) = .ok true := by decide +kernel
  obtain ⟨dir, a, hstart, ha, hid⟩ := exists_architecture_of_start hfound
  have hprint : ∃ out, (Command.dump "x" false).print dir () =
      ⟨out, .error (.inr (.fault .numberTooLong))⟩ :=
    Command.print_of_writes_tooLong (Startup.serves_of_ok hstart)
      (.dumpRegisters ha (of_decide_eq_true hid)) (Nat.le_of_eq (Int.natAbs_natCast _).symm)
  obtain ⟨out, hout⟩ := hprint
  refine ⟨_, dir, a, ⟨rfl, rfl⟩, hstart, ha, hread, ?_⟩
  rw [run, runBy_of_accepted hread]
  exact Request.run_of_escape hstart hout

end CommandLine

end IsaNames
