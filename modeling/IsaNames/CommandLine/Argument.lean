import IsaNames.Text.Digit

/-!
# Arguments of a command line

Each argument is an operand or an option.  Long options may be shortened as long as one option alone
is meant, and may carry a value after an equals sign.  What starts with a dash is an operand only if
it is the dash alone, looks like a negative number, or has a space in it and is no option.

There are two editions of these rules.  They differ in what becomes of a value that an option has no
use for, and in nothing else.  The program is run with the earlier one; what is said of its command lines
is said of both.

## Main definitions

* `Edition` — the editions of the rules.
* `Flag` — the options.
* `Argument` — what an argument is taken for.
* `Argument.classify` — the rule.
-/

namespace IsaNames.CommandLine

/-- The editions of the rules. -/
inductive Edition
  /-- What stands right behind `-h` is a value, unless it only repeats the letter, and two dashes in the
  place of a value count as none. -/
  | earlier
  /-- Letters right behind `-h` are options of their own, and two dashes in the place of a value are a
  value. -/
  | later
  deriving DecidableEq, Repr

/-- The options. -/
inductive Flag
  /-- Asks for help. -/
  | help
  /-- Asks for log output from a level on. -/
  | logLevel
  /-- Asks for opcodes instead of registers. -/
  | opcodes
  deriving DecidableEq, Repr

/-- The long form of an option, without the two dashes. -/
def Flag.longName : Flag → String
  | help => "help"
  | logLevel => "log-level"
  | opcodes => "opcodes"

/-- What an argument is taken for. -/
inductive Argument
  | operand (text : String)
  /-- An option, with the value that stands behind an equals sign. -/
  | option (flag : Flag) (value : Option String)
  /-- Looks like an option but is none. -/
  | unknown
  /-- May be short for more than one option. -/
  | ambiguous
  deriving DecidableEq, Repr

namespace Argument

/-! ### Operands that start with a dash -/

/-- The text without one line break at its end. -/
def dropFinalBreak (cs : List Char) : List Char :=
  if cs.getLast? = some '\n' then cs.dropLast else cs

/-- Whether the text after a dash makes it a negative number: digits, perhaps with a point before
the last of them. -/
def isUnsignedNumber (cs : List Char) : Bool :=
  let body := dropFinalBreak cs
  match body.dropWhile Text.isDecimalDigit with
  | [] => !body.isEmpty
  | '.' :: decimals => !decimals.isEmpty && decimals.all Text.isDecimalDigit
  | _ => false

/-- What an argument of the given characters, a dash first, is if it is no option. -/
def ofNoOption (cs : List Char) : Argument :=
  if isUnsignedNumber cs.tail || cs.contains ' ' then .operand (String.ofList cs) else .unknown

/-! ### Options -/

/-- A text up to the first equals sign, and what follows it if there is one. -/
def splitValue (cs : List Char) : List Char × Option String :=
  match cs.dropWhile (· ≠ '=') with
  | [] => (cs, none)
  | _ :: value => (cs.takeWhile (· ≠ '='), some (String.ofList value))

/-- What two dashes and then the given characters are, where the given options exist. -/
def classifyLong (flags : List Flag) (cs : List Char) : Argument :=
  let (name, value) := splitValue cs
  match flags.find? (·.longName.toList = name) with
  | some flag => .option flag value
  | none =>
    match flags.filter fun flag => name.isPrefixOf flag.longName.toList with
    | [flag] => .option flag value
    | [] => ofNoOption ('-' :: '-' :: cs)
    | _ => .ambiguous

/-- The value that the characters behind `-h` give it, if they do.  By the earlier rules the letter may be
repeated, also behind an equals sign, and everything else is a value.  By the later ones it is the
characters behind an equals sign or another dash that are one; options with other letters come after
the help that was asked for. -/
def helpValue? : Edition → List Char → Option String
  | _, [] => none
  | .earlier, c :: rest =>
    let letters := if c = '=' then rest else c :: rest
    if !letters.isEmpty && letters.all (· = 'h') then none else some (String.ofList letters)
  | .later, cs =>
    match cs.dropWhile (· = 'h') with
    | [] => none
    | c :: value => if c = '=' || c = '-' then some (String.ofList value) else none

/-- What an argument is taken for where the given options exist, the one for help among them. -/
def classify (edition : Edition) (flags : List Flag) (arg : String) : Argument :=
  match arg.toList with
  | ['-'] => .operand arg
  | '-' :: '-' :: cs => classifyLong flags cs
  | '-' :: 'h' :: cs => .option .help (helpValue? edition cs)
  | '-' :: cs => ofNoOption ('-' :: cs)
  | _ => .operand arg

end Argument

end IsaNames.CommandLine
