import IsaNames.CommandLine.Request
import IsaNames.Log.Outlet
import IsaNames.Startup

/-!
# Carrying out requests

A request is answered from a directory.  What is found is printed line by line; a look-up that fails
and a faulty declaration are told on the error output and in the exit code.

## Main definitions

* `Exit` — exit code, output and error output.
* `Printout` — what has been printed, and how the printing ends.
* `Command.print` — what a command prints.
* `Transcript`, `Request.perform` — all that a request puts out, the log included.
* `CommandLine.perform`, `CommandLine.runBy`, `CommandLine.run` — a whole command line, with the given
  declarations.
-/

namespace IsaNames.CommandLine

/-- How a run of the program ends. -/
structure Exit where
  code : Nat
  out : String
  err : String
  deriving DecidableEq, Repr

/-- What ends a run without an exit code of its own. -/
inductive Escape
  /-- A fault in the start-up that is neither a flaw nor a miss, or output that cannot be
  written. -/
  | fault (fault : Fault)
  /-- The name to look up has no text. -/
  | nameless
  deriving DecidableEq, Repr

/-- What a command line leads to. -/
inductive Result
  /-- The arguments are refused, and the usage is told. -/
  | usage
  | help
  | exit (exit : Exit)
  | escape (escape : Escape)
  deriving DecidableEq, Repr

/-! ### Printing -/

/-- What has been printed, and how the printing ends: with everything written, with a look-up that
fails, or in a way that has no exit code. -/
structure Printout where
  out : String
  ending : Except (Miss ⊕ Escape) Unit
  deriving Repr

/-- A line of a dump: the ID, its name and its aliases. -/
def dumpLine (x : Lexicon) (entry : Int × String) : Text.Phrase :=
  entry.1 ++ "\t" ++ entry.2 ++ "\t" ++ ",".intercalate (x.aliases entry.1)

/-- All names of a lexicon by ID. -/
def dumpLines (x : Lexicon) : List Text.Phrase := x.displayed.map (dumpLine x)

/-- A text on a line of its own. -/
def onLine (text : String) : String := text ++ "\n"

/-- Prints each phrase on a line of its own, behind what has been printed before.  The first one that
cannot be written ends the printing. -/
def printLines (out : String) : List Text.Phrase → Printout
  | [] => ⟨out, .ok ()⟩
  | line :: rest =>
    match Fault.write line with
    | .ok text => printLines (out ++ onLine text) rest
    | .error fault => ⟨out, .error (.inr (.fault fault))⟩

/-- Prints what is made of an architecture, if there is one of that name. -/
def printFor {ε : Type} (d : Directory ε) (architecture : String) (print : Architecture → Printout) :
    Printout :=
  match d.architecture architecture with
  | .error m => ⟨"", .error (.inl m)⟩
  | .ok a => print a

/-- Prints the ID of a name.  The architecture was found before a name without a text is noticed. -/
def printId (x : Lexicon) : Option String → Printout
  | none => ⟨"", .error (.inr .nameless)⟩
  | some name =>
    match x.idOf name with
    | .error m => ⟨"", .error (.inl m)⟩
    | .ok id => printLines "" [id]

/-- Prints what a command asks for. -/
def Command.print {ε : Type} (d : Directory ε) (state : ε) : Command → Printout
  | registerId architecture name => printFor d architecture fun a => printId a.registers name
  | opcodeId architecture name => printFor d architecture fun a => printId a.opcodes name
  | showRegister id => printLines "" [d.showRegister state id]
  | showOpcode id => printLines "" [d.showOpcode state id]
  | .dump architecture opcodes =>
    printFor d architecture fun a =>
      printLines "" (dumpLines (if opcodes then a.opcodes else a.registers))

/-! ### Runs -/

/-- The records that are written when the log is asked for from the given level on. -/
def loggedRecords (level : String) (records : List Log.Record) : List Log.Record :=
  records.filter (Log.Outlet.request {} (.named level) "" false).1.accepts

/-- A record as it goes to the error output: its line, or, if that cannot be written, what is said
about it instead. -/
def shownRecord (complaint : Log.Record → String) (r : Log.Record) : String :=
  (r.line? Log.Record.epoch).getD (complaint r)

/-- The log as it goes to the error output, where it is asked for. -/
def logText (complaint : Log.Record → String) : Option String → List Log.Record → String
  | none, _ => ""
  | some level, records => String.join ((loggedRecords level records).map (shownRecord complaint))

/-- What is said first about a record that cannot be written. -/
def logComplaint (_ : Log.Record) : String := onLine "--- Logging error ---"

/-- The log as it goes to the error output, from the given level on. -/
def shownLog (logLevel : Option String) (records : List Log.Record) : String :=
  logText logComplaint logLevel records

/-- All that a run puts out, and how it ends: with an exit code or in another way. -/
structure Transcript where
  out : String
  err : String
  ending : Except Escape Nat
  deriving Repr

/-- What a run leads to. -/
def Transcript.result (t : Transcript) : Result :=
  match t.ending with
  | .ok code => .exit ⟨code, t.out, t.err⟩
  | .error e => .escape e

theorem Transcript.eq_iff {s t : Transcript} :
    (s.out = t.out ∧ s.err = t.err ∧ s.result = t.result) ↔ s = t := by
  constructor
  · obtain ⟨out, err, ending⟩ := s
    obtain ⟨out', err', ending'⟩ := t
    rintro ⟨rfl, rfl, hresult⟩
    -- the result tells the two kinds of endings apart
    cases ending <;> cases ending' <;> simp_all [result]
  · rintro rfl
    exact ⟨rfl, rfl, rfl⟩

instance : DecidableEq Transcript := fun _ _ => decidable_of_decidable_of_iff Transcript.eq_iff

/-- What a request puts out after a start-up.  All records come from the start-up, so the log stands
before anything else on the error output. -/
def Request.perform (complaint : Log.Record → String) (r : Request)
    (start : Traced (Directory Unit)) : Transcript :=
  let log := logText complaint r.logLevel start.log
  match start.outcome with
  | .error (.flaw f) => ⟨"", log ++ onLine f.notice.text, .ok 2⟩
  | .error fault => ⟨"", log, .error (.fault fault)⟩
  | .ok directory =>
    let printed := r.command.print directory ()
    match printed.ending with
    | .ok () => ⟨printed.out, log, .ok 0⟩
    | .error (.inl m) => ⟨printed.out, log ++ onLine ("ERROR: " ++ m.message), .ok 1⟩
    | .error (.inr e) => ⟨printed.out, log, .error e⟩

/-- How a request ends after a start-up. -/
def Request.run (r : Request) (start : Traced (Directory Unit)) : Result :=
  (r.perform logComplaint start).result

/-- What the program puts out for a command line that is accepted. -/
def perform (edition : Edition) (complaint : Log.Record → String) (generic : List String)
    (declarations : List Declaration) (args : List String) : Reading Transcript :=
  match Request.read edition args with
  | .help => .help
  | .refused => .refused
  | .accepted r => .accepted (r.perform complaint (Startup.ofDeclarations generic declarations))

/-- The end of the program for a command line that is read by the rules of an edition. -/
def runBy (edition : Edition) (generic : List String) (declarations : List Declaration)
    (args : List String) : Result :=
  match perform edition logComplaint generic declarations args with
  | .help => .help
  | .refused => .usage
  | .accepted t => t.result

/-- The end of the program for a command line, by the rules that it is run with. -/
def run (generic : List String) (declarations : List Declaration) (args : List String) : Result :=
  runBy .earlier generic declarations args

end IsaNames.CommandLine
