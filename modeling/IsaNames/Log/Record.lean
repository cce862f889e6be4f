import IsaNames.Text.Phrase

/-!
# Log records

What the library says about its work, one record for each thing that happened.

## Main definitions

* `Log.Level` — severities as numbers, some of which have names.
* `Log.Part` — the parts of the library that write records, each with a logger.
* `Log.Record` — a severity, the logger it was given to, and a text.
* `Log.Record.line?` — the record as a line of output, if it can be written.
* `Log.Part.record` — what a part of the library puts on record.
-/

namespace IsaNames.Log

/-- How severe a record is: the larger the number, the more severe. -/
abbrev Level := Int

namespace Level

/-- For tracing the work of the library. -/
def debug : Level := 10

/-- For milestones. -/
def info : Level := 20

/-- For what deserves attention. -/
def warning : Level := 30

/-- For what went wrong. -/
def error : Level := 40

/-- For what ends everything. -/
def critical : Level := 50

/-- No level of its own. -/
def unset : Level := 0

/-- The name a level is shown by. -/
def label (level : Level) : String :=
  if level = critical then "CRITICAL"
  else if level = error then "ERROR"
  else if level = warning then "WARNING"
  else if level = info then "INFO"
  else if level = debug then "DEBUG"
  else if level = unset then "NOTSET"
  else "Level " ++ toString level

/-- The level that a name stands for; two of the levels have a second name. -/
def ofName? (name : String) : Option Level :=
  if name = "CRITICAL" ∨ name = "FATAL" then some critical
  else if name = "ERROR" then some error
  else if name = "WARNING" ∨ name = "WARN" then some warning
  else if name = "INFO" then some info
  else if name = "DEBUG" then some debug
  else if name = "NOTSET" then some unset
  else none

end Level

/-- A text, its severity and the name of the logger that it was given to.  Whether they can be written
matters only to those who write them. -/
structure Record where
  level : Level
  logger : String
  text : Text.Phrase
  deriving DecidableEq, Repr

namespace Record

/-- The moment that is shown when no clock is read. -/
def epoch : String := "1970-01-01 00:00:00"

/-- Whether the record can be written: neither its level nor a number in its text is too long. -/
def isWritable (r : Record) : Bool := Text.isWritable r.level && r.text.isWritable

/-- The line that shows the record, at the given moment, if it can be written. -/
def line? (moment : String) (r : Record) : Option String :=
  if r.isWritable then
    some (moment ++ " [" ++ r.level.label ++ "] " ++ r.logger ++ ": " ++ r.text.text ++ "\n")
  else none

end Record

/-! ### Loggers

The library's loggers form a tree under one root; each part of the library has its own. -/

/-- The logger that all others of the library are below of. -/
def rootLogger : String := "archns"

/-- The parts of the library that write records. -/
inductive Part
  | lexicons
  | notices
  | providers
  | space
  | startup
  deriving DecidableEq, Repr

/-- The name of the part below the root logger. -/
def Part.word : Part → String
  | lexicons => "names"
  | notices => "diagnostics"
  | providers => "registrar"
  | space => "namespace"
  | startup => "bootstrap"

/-- The logger of a part. -/
def Part.logger (p : Part) : String := rootLogger ++ "." ++ p.word

/-- The record that a part of the library writes. -/
def Part.record (p : Part) (level : Level) (text : Text.Phrase) : Record := ⟨level, p.logger, text⟩

/-- Whether records given to the logger of this name reach the root logger of the library. -/
def isBelowRoot (logger : String) : Bool :=
  logger == rootLogger || (rootLogger ++ ".").isPrefixOf logger

end IsaNames.Log
