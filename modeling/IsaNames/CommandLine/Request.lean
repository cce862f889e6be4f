import IsaNames.CommandLine.Argument
import IsaNames.Text.Numeral

/-!
# Requests of a command line

A command line is read from left to right: options of the program, the name of a command, and the
operands and options of that command.  An argument that cannot be understood where it stands ends
the reading at once; so does a request for help.  Options that do not exist and operands too many
are only refused at the end.  Two dashes end the options of a command.

## Main definitions

* `Command`, `Request` — what can be asked for.
* `Reading` — what a command line comes to.
* `Request.read` — reads a command line.
-/

namespace IsaNames.CommandLine

/-! ### Requests -/

/-- What the program is asked to do. -/
inductive Command
  /-- The ID of a register; the name has no text if two dashes stand in its place. -/
  | registerId (architecture : String) (name : Option String)
  /-- The opcode of a mnemonic. -/
  | opcodeId (architecture : String) (name : Option String)
  /-- The text of a register ID. -/
  | showRegister (id : Int)
  /-- The text of an opcode. -/
  | showOpcode (id : Int)
  /-- The names of all registers, or of all opcodes, of an architecture. -/
  | dump (architecture : String) (opcodes : Bool)
  deriving DecidableEq, Repr

/-- A command, and the level from which on the log is shown. -/
structure Request where
  logLevel : Option String
  command : Command
  deriving DecidableEq, Repr

/-- What a command line comes to. -/
inductive Reading (α : Type)
  /-- Help was asked for. -/
  | help
  /-- The command line is refused. -/
  | refused
  | accepted (value : α)
  deriving DecidableEq, Repr

/-! ### The commands -/

/-- The commands by their syntax. -/
inductive Verb
  | registerId
  | opcodeId
  | showRegister
  | showOpcode
  | dump
  deriving DecidableEq, Repr

namespace Verb

/-- The verb of a name; names may not be shortened. -/
def ofName? (name : String) : Option Verb :=
  if name = "reg" then some registerId
  else if name = "op" then some opcodeId
  else if name = "fmt-reg" then some showRegister
  else if name = "fmt-op" then some showOpcode
  else if name = "dump" then some dump
  else none

/-- How many operands the command takes. -/
def arity : Verb → Nat
  | registerId | opcodeId => 2
  | showRegister | showOpcode | dump => 1

/-- The options of the command. -/
def flags : Verb → List Flag
  | dump => [.help, .opcodes]
  | _ => [.help]

/-- Whether a text can be an operand of the command: IDs have to be integers. -/
def admissible (v : Verb) (text : String) : Bool :=
  match v with
  | showRegister | showOpcode => (Text.readInteger? text).isSome
  | _ => true

/-- The command with these operands, if they are of the right number and kind. -/
def command? (v : Verb) (operands : List (Option String)) (opcodes : Bool) : Option Command :=
  match v, operands with
  | registerId, [some architecture, name] => some (.registerId architecture name)
  | opcodeId, [some architecture, name] => some (.opcodeId architecture name)
  | showRegister, [some id] => (Text.readInteger? id).map .showRegister
  | showOpcode, [some id] => (Text.readInteger? id).map .showOpcode
  | dump, [some architecture] => some (.dump architecture opcodes)
  | _, _ => none

end Verb

/-! ### Reading the arguments of a command -/

/-- What has been read of the arguments of a command. -/
structure Progress where
  /-- The operands taken, in order. -/
  operands : List (Option String) := []
  opcodes : Bool := false
  /-- Whether something was read that will be refused in the end. -/
  surplus : Bool := false
  /-- Whether the last argument was an operand that was taken. -/
  afterOperand : Bool := false
  deriving DecidableEq, Repr

namespace Progress

/-- The end of the arguments. -/
def finish (p : Progress) (verb : Verb) : Reading (Command × Bool) :=
  match verb.command? p.operands p.opcodes with
  | some command => .accepted (command, p.surplus)
  | none => .refused

/-- The operands behind the two dashes that end the options.  Another two dashes among them leave
the operand in their place without a text; but where no operand was taken right before the end of
the options, the first one behind it is a text whatever it is. -/
def tailOperands (afterOperand : Bool) : List String → List (Option String)
  | [] => []
  | first :: rest =>
    let blanked := fun text : String => if text = "--" then none else some text
    (if afterOperand then blanked first else some first) :: rest.map blanked

/-- The end of the arguments where two dashes end the options, with what stands behind them.  If all
operands are there already, the dashes have to come right behind the last one, and nothing may
follow. -/
def finishTail (p : Progress) (verb : Verb) (tail : List String) : Reading (Command × Bool) :=
  if p.operands.length = verb.arity then
    if p.afterOperand && tail.isEmpty then p.finish verb else .refused
  else
    let p := { p with operands := p.operands ++ tailOperands p.afterOperand tail }
    p.finish verb

end Progress

/-- Reads the arguments of a command. -/
def readArguments (edition : Edition) (verb : Verb) (p : Progress) :
    List String → Reading (Command × Bool)
  | [] => p.finish verb
  | arg :: rest =>
    if arg = "--" then p.finishTail verb rest
    else
      match Argument.classify edition verb.flags arg with
      | .operand text =>
        if p.operands.length < verb.arity then
          if verb.admissible text then
            readArguments edition verb
              { p with operands := p.operands ++ [some text], afterOperand := true } rest
          else .refused
        else readArguments edition verb { p with surplus := true, afterOperand := false } rest
      | .option .help none => .help
      | .option .opcodes none =>
        readArguments edition verb { p with opcodes := true, afterOperand := false } rest
      | .option _ _ => .refused
      | .unknown => readArguments edition verb { p with surplus := true, afterOperand := false } rest
      | .ambiguous => .refused

/-! ### Reading a whole command line -/

/-- The options of the program. -/
def programFlags : List Flag := [.help, .logLevel]

/-- The levels that the log can be asked for. -/
def logLevels : List String := ["DEBUG", "INFO", "WARNING", "ERROR"]

/-- The reading of a command together with what was read before it. -/
def Reading.complete (logLevel : Option String) (surplus : Bool) :
    Reading (Command × Bool) → Reading Request
  | help => .help
  | refused => .refused
  | accepted (command, surplus') =>
    if surplus || surplus' then .refused else .accepted ⟨logLevel, command⟩

/-- What a value behind an equals sign asks for, if it may stand there: a level, or, if the edition does
not count two dashes as a value, none. -/
def levelOf? (edition : Edition) (value : String) : Option (Option String) :=
  if logLevels.contains value then some (some value)
  else if edition = .earlier && value = "--" then some none
  else none

/-- Reads a command line after the given level was asked for, and after something was read that
will be refused in the end if `surplus` says so.  The last level asked for counts. -/
def readFrom (edition : Edition) (logLevel : Option String) (surplus : Bool) :
    List String → Reading Request
  | [] => .refused
  | arg :: rest =>
    if arg = "--" then .refused
    else
      match Argument.classify edition programFlags arg with
      | .operand name =>
        match Verb.ofName? name with
        | some verb => (readArguments edition verb {} rest).complete logLevel surplus
        | none => .refused
      | .option .help none => .help
      | .option .logLevel (some value) =>
        match levelOf? edition value with
        | some level => readFrom edition level surplus rest
        | none => .refused
      | .option .logLevel none =>
        match rest with
        | level :: rest =>
          if logLevels.contains level then readFrom edition (some level) surplus rest else .refused
        | [] => .refused
      | .option _ _ => .refused
      | .unknown => readFrom edition logLevel true rest
      | .ambiguous => .refused

/-- Reads a command line.  An option before the first two dashes that may be short for more than one
option of the program is refused before anything else. -/
def Request.read (edition : Edition) (args : List String) : Reading Request :=
  if (args.takeWhile (· ≠ "--")).any fun arg =>
      Argument.classify edition programFlags arg = .ambiguous then
    .refused
  else readFrom edition none false args

end IsaNames.CommandLine
