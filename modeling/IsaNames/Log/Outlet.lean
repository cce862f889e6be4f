import IsaNames.Log.Record
import IsaNames.Text.Quoted

/-!
# Where log records go

The library is silent until it is told where to write.  Each request adds a stream; a forced one
first takes away everything that was there.  Records below the level that was asked for last are not
written.

## Main definitions

* `Log.Outlet` — the handlers of the library's root logger and its level.
* `Outlet.request` — adds a stream and sets the level.
* `Outlet.accepts`, `Outlet.writes` — which records are written, and where.
* `Log.Journal` — an outlet with all the text written through it.
-/

namespace IsaNames.Log

/-! ### Outlets -/

/-- What receives the records that a logger accepts. -/
inductive Handler
  /-- Drops them. -/
  | silent
  /-- Writes each as a line to the stream of this name. -/
  | stream (name : String)
  deriving DecidableEq, Repr

/-- A level as it is asked for. -/
inductive LevelRequest
  | named (name : String)
  | number (level : Level)
  deriving DecidableEq, Repr

/-- A name that stands for no level. -/
structure UnknownLevel where
  name : String
  deriving DecidableEq, Repr

/-- The text of the complaint. -/
def UnknownLevel.message (u : UnknownLevel) : String := "Unknown level: " ++ Text.quoted u.name

/-- The level that is asked for, if there is such a one. -/
def LevelRequest.resolve : LevelRequest → Except UnknownLevel Level
  | number level => .ok level
  | named name =>
    match Level.ofName? name with
    | some level => .ok level
    | none => .error ⟨name⟩

/-- The state of the library's root logger. -/
structure Outlet where
  handlers : List Handler := [.silent]
  level : Level := Level.unset
  /-- Whether records are passed on to the surroundings, which keep none. -/
  passesOn : Bool := true
  deriving DecidableEq, Repr, Inhabited

namespace Outlet

/-- The outlet with one more stream, or with it alone if the request is forced. -/
def addStream (o : Outlet) (stream : String) (force : Bool) : Outlet :=
  { o with handlers := (if force then [] else o.handlers) ++ [.stream stream] }

/-- Adds a stream and sets the level.  The stream stays even if there is no such level. -/
def request (o : Outlet) (level : LevelRequest) (stream : String) (force : Bool) :
    Outlet × Except UnknownLevel Unit :=
  let opened := o.addStream stream force
  match level.resolve with
  | .ok level => ({ opened with level, passesOn := false }, .ok ())
  | .error e => (opened, .error e)

/-- The least level that is written: that of the surroundings, which is for warnings, unless the
outlet has its own. -/
def threshold (o : Outlet) : Level :=
  if o.level = Level.unset then Level.warning else o.level

/-- Whether a record is written at all: it has to have a positive level, and one that is high
enough. -/
def accepts (o : Outlet) (r : Record) : Bool :=
  isBelowRoot r.logger && decide (0 < r.level) && decide (o.threshold ≤ r.level)

/-- The streams of the handlers, in order; a stream asked for twice is there twice. -/
def streams (o : Outlet) : List String :=
  o.handlers.filterMap fun
    | .silent => none
    | .stream name => some name

/-- The lines that a record leads to, each with the stream it is written to.  A record that cannot be
written leads to none; what is said about it does not go to the streams. -/
def writes (o : Outlet) (r : Record) : List (String × String) :=
  if o.accepts r then
    match r.line? Record.epoch with
    | some line => o.streams.map fun stream => (stream, line)
    | none => []
  else []

end Outlet

/-! ### Journals -/

/-- An outlet, the streams that were ever asked for, and the lines written so far. -/
structure Journal where
  outlet : Outlet := {}
  asked : List String := []
  lines : List (String × String) := []
  deriving Repr, Inhabited

namespace Journal

/-- A request for a stream. -/
def request (j : Journal) (level : LevelRequest) (stream : String) (force : Bool) :
    Journal × Except UnknownLevel Unit :=
  let (outlet, result) := j.outlet.request level stream force
  ({ j with outlet, asked := if j.asked.contains stream then j.asked else j.asked ++ [stream] },
    result)

/-- Writes records. -/
def write (j : Journal) (records : List Record) : Journal :=
  { j with lines := j.lines ++ records.flatMap j.outlet.writes }

/-- All that was written to a stream. -/
def text (j : Journal) (stream : String) : String :=
  String.join ((j.lines.filter (·.1 == stream)).map (·.2))

end Journal

end IsaNames.Log
