import IsaNames.Proofs.CommandRun
import IsaNames.Proofs.Editions
import IsaNames.Proofs.PlainNames
import IsaNames.Proofs.WrittenNumbers

/-!
# The argument of a command that shows an ID

Two commands take an ID and show what it is spelled out by.  The first argument of the command that is
an operand is taken for the ID, and so is the one behind two dashes.  If it is not an integer, the
command line is refused, whatever else is on it; if it is one, that is the ID that is shown.

## Main definitions

* `IdCommand` — the two commands.
* `Leads`, `IdToken` — which command a command line leads to, and what is taken for the ID.
* `IdCommand.ReadsToken`, `IdCommand.ShowsNumbers` — what becomes of it.

## Main results

* `Leads.readFrom_eq` — what stands in front of a command does not matter for its arguments.
* `IdToken.readArguments_eq_refused`, `IdToken.command_of_readArguments` — what is taken for the ID is
  read as an integer, or the command line is refused.
* `classify_toString` — the decimal text of an integer is an operand, even if it is negative.
* `id_arguments` — **IDs are what their tokens denote, and what is written for an integer shows it.**
-/

namespace IsaNames.CommandLine

open Text (leastTooLong Denotes baseOf? markedText)

/-! ### The commands -/

/-- The commands that show an ID. -/
inductive IdCommand
  | register
  | opcode

namespace IdCommand

def verb : IdCommand → Verb
  | register => .showRegister
  | opcode => .showOpcode

/-- How the command is written. -/
def word : IdCommand → String
  | register => "fmt-reg"
  | opcode => "fmt-op"

def command : IdCommand → Int → Command
  | register => .showRegister
  | opcode => .showOpcode

/-- What the command shows. -/
def shown (dir : Directory Unit) : IdCommand → Int → Text.Phrase
  | register => dir.showRegister ()
  | opcode => dir.showOpcode ()

/-- Whose ID it is. -/
def owner? (dir : Directory Unit) : IdCommand → Int → Option String
  | register => dir.registerOwner?
  | opcode => dir.opcodeOwner?

variable (k : IdCommand)

@[simp] theorem flags_verb : k.verb.flags = [.help] := by cases k <;> rfl

@[simp] theorem arity_verb : k.verb.arity = 1 := by cases k <;> rfl

@[simp] theorem admissible_verb (text : String) :
    k.verb.admissible text = (Text.readInteger? text).isSome := by cases k <;> rfl

@[simp] theorem command?_singleton (text : String) (opcodes : Bool) :
    k.verb.command? [some text] opcodes = (Text.readInteger? text).map k.command := by
  cases k <;> rfl

/-- The command has one operand, and that is an integer. -/
theorem command?_eq_some {k : IdCommand} {token : String} {others : List (Option String)}
    {opcodes : Bool} {c : Command} (h : k.verb.command? (some token :: others) opcodes = some c) :
    others = [] ∧ (Text.readInteger? token).map k.command = some c := by
  cases others with
  | nil =>
    rw [command?_singleton] at h
    exact ⟨rfl, h⟩
  | cons => cases k <;> cases h

end IdCommand

/-! ### What is taken for the ID -/

/-- What is taken for the ID among the arguments of a command that shows one. -/
inductive IdToken (edition : Edition) : List String → String → Prop
  | operand {arg token : String} {rest : List String} (hdashes : arg ≠ "--")
      (h : Argument.classify edition [.help] arg = .operand token) :
      IdToken edition (arg :: rest) token
  | behind {token : String} {rest : List String} : IdToken edition ("--" :: token :: rest) token
  /-- An option that does not exist is refused in the end, but not before the ID is read. -/
  | later {arg token : String} {rest : List String} (hdashes : arg ≠ "--")
      (h : Argument.classify edition [.help] arg = .unknown) (hrest : IdToken edition rest token) :
      IdToken edition (arg :: rest) token

variable {edition : Edition} {k : IdCommand} {args : List String} {token : String} {p : Progress} {c : Command}
  {surplus : Bool}

/-- A command with an operand is accepted with the integer that the operand is. -/
theorem command_of_finish {others : List (Option String)} (hp : p.operands = some token :: others)
    (h : p.finish k.verb = .accepted (c, surplus)) :
    (Text.readInteger? token).map k.command = some c := by
  unfold Progress.finish at h
  split at h
  · next command hcommand =>
    cases h
    rw [hp] at hcommand
    exact (IdCommand.command?_eq_some hcommand).2
  · cases h

/-- Nothing else is taken for the ID once it is there. -/
theorem command_of_readArguments (hp : p.operands = [some token])
    (h : readArguments edition k.verb p args = .accepted (c, surplus)) :
    (Text.readInteger? token).map k.command = some c := by
  induction args generalizing p with
  | nil => exact command_of_finish hp h
  | cons arg rest ih =>
    rw [readArguments] at h
    split at h
    · simp only [Progress.finishTail, hp, IdCommand.arity_verb, List.length_singleton, if_true] at h
      split at h
      · exact command_of_finish hp h
      · cases h
    · simp only [IdCommand.flags_verb, IdCommand.arity_verb, hp, List.length_singleton,
        Nat.lt_irrefl, if_false] at h
      -- whatever the argument is, the operand stays alone, or the reading ends without a command
      split at h
      · exact ih rfl h
      · cases h
      · exact ih rfl h
      · cases h
      · exact ih rfl h
      · cases h

/-- A command with an operand that is no integer is refused. -/
theorem finish_eq_refused {others : List (Option String)} (hp : p.operands = some token :: others)
    (h : Text.readInteger? token = none) : p.finish k.verb = .refused := by
  unfold Progress.finish
  split
  · next command hcommand =>
    rw [hp] at hcommand
    have hnone := (IdCommand.command?_eq_some hcommand).2
    rw [h] at hnone
    cases hnone
  · rfl

/-- Behind two dashes the operands are what follows. -/
theorem readArguments_dashes (hp : p.operands = [] ∧ p.afterOperand = false) (rest : List String) :
    ∃ others, readArguments edition k.verb p ("--" :: token :: rest) =
      { p with operands := some token :: others }.finish k.verb := by
  refine ⟨rest.map fun text => if text = "--" then none else some text, ?_⟩
  simp [readArguments, Progress.finishTail, Progress.tailOperands, hp.1, hp.2]

/-- **What is taken for the ID has to be an integer**, or else the command line is refused. -/
theorem IdToken.readArguments_eq_refused (htoken : IdToken edition args token)
    (h : Text.readInteger? token = none) (hp : p.operands = [] ∧ p.afterOperand = false) :
    readArguments edition k.verb p args = .refused := by
  induction htoken generalizing p with
  | operand hdashes hoperand => simp [readArguments, hdashes, hoperand, hp.1, h]
  | behind =>
    obtain ⟨others, hread⟩ := readArguments_dashes hp _
    rw [hread]
    exact finish_eq_refused rfl h
  | later hdashes hunknown _ ih =>
    rw [readArguments, if_neg hdashes]
    simp only [IdCommand.flags_verb, hunknown]
    exact ih h ⟨hp.1, rfl⟩

/-- **If the command line is accepted, that integer is the ID.** -/
theorem IdToken.command_of_readArguments (htoken : IdToken edition args token)
    (hp : p.operands = [] ∧ p.afterOperand = false)
    (h : readArguments edition k.verb p args = .accepted (c, surplus)) :
    (Text.readInteger? token).map k.command = some c := by
  induction htoken generalizing p with
  | operand hdashes hoperand =>
    rw [readArguments, if_neg hdashes] at h
    simp only [IdCommand.flags_verb, hoperand, hp.1, IdCommand.arity_verb, List.length_nil,
      Nat.zero_lt_one, if_true] at h
    split at h
    · exact CommandLine.command_of_readArguments rfl h
    · cases h
  | behind =>
    obtain ⟨others, hread⟩ := readArguments_dashes hp _
    rw [hread] at h
    exact command_of_finish rfl h
  | later hdashes hunknown _ ih =>
    rw [readArguments, if_neg hdashes] at h
    simp only [IdCommand.flags_verb, hunknown] at h
    refine ih ?_ h
    exact ⟨hp.1, rfl⟩

/-! ### In front of the command -/

/-- The command line leads to a command with these arguments. -/
inductive Leads (edition : Edition) : List String → Verb → List String → Prop
  | verb {arg word : String} {verb : Verb} {args : List String} (hdashes : arg ≠ "--")
      (h : Argument.classify edition programFlags arg = .operand word)
      (hverb : Verb.ofName? word = some verb) : Leads edition (arg :: args) verb args
  | unknown {arg : String} {verb : Verb} {rest args : List String} (hdashes : arg ≠ "--")
      (h : Argument.classify edition programFlags arg = .unknown)
      (hrest : Leads edition rest verb args) : Leads edition (arg :: rest) verb args
  | level {arg value : String} {level : Option String} {verb : Verb} {rest args : List String}
      (hdashes : arg ≠ "--")
      (h : Argument.classify edition programFlags arg = .option .logLevel (some value))
      (hlevel : levelOf? edition value = some level) (hrest : Leads edition rest verb args) :
      Leads edition (arg :: rest) verb args
  | nextLevel {arg level : String} {verb : Verb} {rest args : List String} (hdashes : arg ≠ "--")
      (h : Argument.classify edition programFlags arg = .option .logLevel none)
      (hlevel : level ∈ logLevels) (hrest : Leads edition rest verb args) :
      Leads edition (arg :: level :: rest) verb args

/-- **What stands in front of a command does not matter for its arguments.** -/
theorem Leads.readFrom_eq {args rest : List String} {verb : Verb} (h : Leads edition args verb rest)
    (logLevel : Option String) (surplus : Bool) : ∃ logLevel' surplus',
      readFrom edition logLevel surplus args =
        (readArguments edition verb {} rest).complete logLevel' surplus' := by
  induction h generalizing logLevel surplus with
  | verb hdashes h hverb =>
    refine ⟨logLevel, surplus, ?_⟩
    rw [readFrom.eq_def]
    simp [hdashes, h, hverb]
  | unknown hdashes h _ ih =>
    obtain ⟨logLevel', surplus', hread⟩ := ih logLevel true
    refine ⟨logLevel', surplus', ?_⟩
    rw [readFrom.eq_def]
    simp [hdashes, h, hread]
  | @level arg value level verb rest args hdashes h hlevel _ ih =>
    obtain ⟨logLevel', surplus', hread⟩ := ih level surplus
    refine ⟨logLevel', surplus', ?_⟩
    rw [readFrom.eq_def]
    simp [hdashes, h, hlevel, hread]
  | @nextLevel arg level verb rest args hdashes h hlevel _ ih =>
    obtain ⟨logLevel', surplus', hread⟩ := ih (some level) surplus
    refine ⟨logLevel', surplus', ?_⟩
    rw [readFrom.eq_def]
    simp [hdashes, h, hlevel, hread]

/-- A command line that leads to a command is refused, or the arguments of the command decide. -/
theorem Leads.read_cases {args rest : List String} {verb : Verb} (h : Leads edition args verb rest) :
    Request.read edition args = .refused ∨ ∃ logLevel surplus,
      Request.read edition args =
        (readArguments edition verb {} rest).complete logLevel surplus := by
  unfold Request.read
  split
  · exact .inl rfl
  · exact .inr (h.readFrom_eq none false)

/-- What becomes of a command line on which a token is taken for the ID. -/
structure IdCommand.ReadsToken (k : IdCommand) (edition : Edition) (args : List String)
    (token : String) : Prop where
  /-- If it stands for no integer, the usage is told and nothing else is done. -/
  refused : (∀ n, ¬ Denotes token n) → ∀ generic declarations,
    runBy edition generic declarations args = .usage
  /-- If the command line is accepted, the integer that it stands for is the ID. -/
  accepted : ∀ r, Request.read edition args = .accepted r →
    ∃ n, Denotes token n ∧ r.command = k.command n

/-- **The token is read as the integer that it stands for.** -/
theorem readsToken {rest : List String} (hleads : Leads edition args k.verb rest)
    (htoken : IdToken edition rest token) : k.ReadsToken edition args token where
  refused := by
    intro hnot generic declarations
    have hnone : Text.readInteger? token = none := by
      rw [Option.eq_none_iff_forall_ne_some]
      exact fun n hn => hnot n (Text.readInteger?_eq_some_iff.mp hn).1
    have hread : Request.read edition args = .refused := by
      obtain h | ⟨logLevel, surplus, h⟩ := hleads.read_cases
      · exact h
      · rw [h, htoken.readArguments_eq_refused hnone ⟨rfl, rfl⟩]
        rfl
    rw [runBy, perform, hread]
  accepted := by
    intro r hr
    obtain h | ⟨logLevel, surplus, h⟩ := hleads.read_cases
    · rw [h] at hr
      cases hr
    · rw [h] at hr
      obtain ⟨surplus', hread⟩ := exists_of_complete hr
      obtain ⟨n, hn, hcommand⟩ :=
        Option.map_eq_some_iff.mp (htoken.command_of_readArguments ⟨rfl, rfl⟩ hread)
      exact ⟨n, (Text.readInteger?_eq_some_iff.mp hn).1, hcommand.symm⟩

/-! ### Numbers as they are written -/

/-- What does not start with a dash is an operand. -/
theorem classify_of_head_ne {text : String} (h : ∀ cs, text.toList ≠ '-' :: cs)
    (flags : List Flag) : Argument.classify edition flags text = .operand text := by
  unfold Argument.classify
  split
  · next hcs => exact absurd hcs (h _)
  · next hcs => exact absurd hcs (h _)
  · next hcs => exact absurd hcs (h _)
  · next hcs => exact absurd hcs (h _)
  · rfl

theorem isDecimalDigit_of_isDigit {c : Char} (h : c.isDigit = true) :
    Text.isDecimalDigit c = true := by
  rw [Char.isDigit_iff_toNat, show '0'.toNat = 48 from rfl, show '9'.toNat = 57 from rfl] at h
  rw [Text.isDecimalDigit, Text.digitValue?_of_lt (by omega), if_pos (by omega), Option.isSome_some]

/-- Digits are a number, whatever line breaks may stand behind one. -/
theorem isUnsignedNumber_of_digits {cs : List Char} (hne : cs ≠ [])
    (hdigits : ∀ c ∈ cs, c.isDigit = true) : Argument.isUnsignedNumber cs = true := by
  have hbreak : Argument.dropFinalBreak cs = cs := by
    rw [Argument.dropFinalBreak, if_neg]
    intro hlast
    cases hdigits _ (List.mem_of_getLast? hlast)
  have hdrop : cs.dropWhile Text.isDecimalDigit = [] := by
    rw [List.dropWhile_eq_nil_iff]
    exact fun c hc => isDecimalDigit_of_isDigit (hdigits c hc)
  simp [Argument.isUnsignedNumber, hbreak, hdrop, hne]

/-- So is a dash with decimal digits behind it. -/
theorem classify_of_digits {text : String} {cs : List Char} (htext : text.toList = '-' :: cs)
    (hne : cs ≠ []) (hdigits : ∀ c ∈ cs, c.isDigit = true) (flags : List Flag) :
    Argument.classify edition flags text = .operand text := by
  have hlast : Argument.ofNoOption ('-' :: cs) = .operand text := by
    rw [Argument.ofNoOption, List.tail_cons, isUnsignedNumber_of_digits hne hdigits, ← htext,
      String.ofList_toList]
    rfl
  unfold Argument.classify
  split
  · rfl
  · next hcs =>
    cases (List.cons.inj (htext.symm.trans hcs)).2
    cases hdigits '-' List.mem_cons_self
  · next hcs =>
    cases (List.cons.inj (htext.symm.trans hcs)).2
    cases hdigits 'h' List.mem_cons_self
  · next hcs =>
    cases (List.cons.inj (htext.symm.trans hcs)).2
    exact hlast
  · rfl

/-- **The decimal text of an integer is an operand**, even if it starts with a dash. -/
theorem classify_toString (n : Int) (flags : List Flag) :
    Argument.classify edition flags (toString n) = .operand (toString n) := by
  have hdigits : ∀ c ∈ Nat.toDigits 10 n.natAbs, c.isDigit = true :=
    fun c => Text.isDigit_of_mem_toDigits
  by_cases hn : 0 ≤ n
  · refine classify_of_head_ne ?_ flags
    intro cs hcs
    rw [Text.toList_toString_of_nonneg hn] at hcs
    rw [hcs] at hdigits
    cases hdigits '-' List.mem_cons_self
  · exact classify_of_digits (Text.toList_toString_of_neg (by omega)) Nat.toDigits_ne_nil hdigits flags

theorem classify_markedText (mark : Char) (base n : Nat) (flags : List Flag) :
    Argument.classify edition flags (markedText mark base n) = .operand (markedText mark base n) := by
  refine classify_of_head_ne ?_ flags
  intro cs hcs
  simp [markedText] at hcs

theorem word_spec (edition : Edition) (k : IdCommand) : k.word ≠ "--" ∧
    Argument.classify edition programFlags k.word = .operand k.word ∧
    Verb.ofName? k.word = some k.verb := by
  cases edition <;> cases k <;> decide +kernel

/-- The word leads to the command. -/
theorem leads_word (k : IdCommand) (rest : List String) :
    Leads edition (k.word :: rest) k.verb rest := by
  obtain ⟨hdashes, hword, hverb⟩ := word_spec edition k
  exact .verb hdashes hword hverb

section Operand

variable (hoperand : ∀ flags, Argument.classify edition flags token = .operand token)
include hoperand

/-- Two dashes alone are no operand. -/
theorem ne_dashes_of_classify : token ≠ "--" := by
  rintro rfl
  cases hoperand []

/-- The word and an operand are read as the command with the integer that the operand is read as. -/
theorem read_word_token {n : Int} (hinteger : Text.readInteger? token = some n) :
    Request.read edition [k.word, token] = .accepted ⟨none, k.command n⟩ := by
  have hdashes : token ≠ "--" := ne_dashes_of_classify hoperand
  obtain ⟨hworddashes, hword, hverb⟩ := word_spec edition k
  have hargs : readArguments edition k.verb {} [token] = .accepted (k.command n, false) := by
    simp [readArguments, hdashes, hoperand, hinteger, Progress.finish]
  have hfrom : readFrom edition none false [k.word, token] = .accepted ⟨none, k.command n⟩ := by
    rw [readFrom.eq_def]
    simp [hworddashes, hword, hverb, hargs, Reading.complete]
  unfold Request.read
  simp [hworddashes, hword, hdashes, hoperand, hfrom]

end Operand

/-! ### What is shown -/

section Shown

variable {generic : List String} {declarations : List Declaration} {dir : Directory Unit}

/-- An ID can be written unless it is too long and nobody owns it. -/
theorem exists_write?_shown (hdir : dir.Serves) (k : IdCommand) {n : Int}
    (hn : n.natAbs < leastTooLong ∨ k.owner? dir n ≠ none) :
    ∃ text, (k.shown dir n).write? = some text := by
  have hnone : (k.shown dir n).isWritable = false ↔
      k.owner? dir n = none ∧ leastTooLong ≤ n.natAbs := by
    cases k with
    | register => exact hdir.showRegister_unwritable_iff () n
    | opcode => exact hdir.showOpcode_unwritable_iff () n
  have hwritable : (k.shown dir n).isWritable = true := by
    rw [← Bool.not_eq_false, hnone]
    rintro ⟨howner, hlong⟩
    exact hn.elim (fun hlt => absurd hlt (Nat.not_lt.mpr hlong)) fun h => h howner
  rw [Text.Phrase.write?, if_pos hwritable]
  exact ⟨_, rfl⟩

/-- The word and an operand show the integer that the operand is read as. -/
theorem runBy_word_token (hstart : (Startup.ofDeclarations generic declarations).outcome = .ok dir)
    (hoperand : ∀ flags, Argument.classify edition flags token = .operand token) {n : Int}
    (hinteger : Text.readInteger? token = some n)
    (hn : n.natAbs < leastTooLong ∨ k.owner? dir n ≠ none) :
    ∃ text, (k.shown dir n).write? = some text ∧
      runBy edition generic declarations [k.word, token] = .exit ⟨0, text ++ "\n", ""⟩ := by
  obtain ⟨text, htext⟩ := exists_write?_shown (Startup.serves_of_ok hstart) k hn
  have hprint : (k.command n).print dir () = printLines "" [k.shown dir n] := by cases k <;> rfl
  have hwrite : Fault.write (k.shown dir n) = .ok text := by rw [Fault.write, htext]
  refine ⟨text, htext, ?_⟩
  rw [runBy_of_accepted (read_word_token hoperand hinteger), Request.run_of_ok hstart, hprint]
  simp [printLines, hwrite, onLine, Printout.result]

/-- What is shown of integers that are written as arguments. -/
structure IdCommand.ShowsNumbers (k : IdCommand) (edition : Edition) (generic : List String)
    (declarations : List Declaration) (dir : Directory Unit) : Prop where
  /-- The decimal text of an integer shows it, whatever its sign. -/
  decimal : ∀ n : Int, n.natAbs < leastTooLong → ∃ text, (k.shown dir n).write? = some text ∧
    runBy edition generic declarations [k.word, toString n] = .exit ⟨0, text ++ "\n", ""⟩
  /-- So does its text in a base that a letter marks, and at any length if somebody owns it. -/
  marked : ∀ mark base, baseOf? mark = some base → ∀ n : Nat,
    n < leastTooLong ∨ k.owner? dir n ≠ none → ∃ text, (k.shown dir n).write? = some text ∧
      runBy edition generic declarations [k.word, markedText mark base n] =
        .exit ⟨0, text ++ "\n", ""⟩

/-- **After a start, what is written for an integer shows it.** -/
theorem showsNumbers (hstart : (Startup.ofDeclarations generic declarations).outcome = .ok dir)
    (edition : Edition) (k : IdCommand) : k.ShowsNumbers edition generic declarations dir where
  decimal := by
    intro n hn
    exact runBy_word_token hstart (classify_toString n) (Text.readInteger?_toString hn) (.inl hn)
  marked := by
    intro mark base hmark n hn
    exact runBy_word_token hstart (classify_markedText mark base n)
      (Text.readInteger?_markedText hmark n) hn

end Shown

/-- **IDs are what their tokens denote, and what is written for an integer shows it.**  Apart from decimal
numbers that are too long, a token is read exactly if it is of the grammar; a token that is taken for
the ID and is not of the grammar has the command line refused, whatever else is on it; and after a start
the texts of an integer show it, in decimal and in the bases that a letter marks. -/
theorem id_arguments (edition : Edition) (k : IdCommand) :
    (∀ token, ¬ Text.IsLongDecimal token →
        ∀ n, Text.readInteger? token = some n ↔ Denotes token n) ∧
      (∀ args rest token, Leads edition args k.verb rest → IdToken edition rest token →
        k.ReadsToken edition args token) ∧
      ∀ generic declarations dir,
        (Startup.ofDeclarations generic declarations).outcome = .ok dir →
        k.ShowsNumbers edition generic declarations dir :=
  ⟨fun _ hshort => Text.readInteger?_eq_some_iff_denotes hshort,
    fun _ _ _ hleads htoken => readsToken hleads htoken,
    fun _ _ _ hstart => showsNumbers hstart edition k⟩

/-- A negative register, behind the level of the log and an option that does not exist, with the
built-in architectures. -/
theorem id_arguments_of_builtin :
    (¬ Text.IsLongDecimal "-7" ∧
      ∀ n, Text.readInteger? "-7" = some n ↔ Denotes "-7" n) ∧
    (Leads .later ["--log-level", "INFO", "fmt-reg", "-x", "-7"] .showRegister ["-x", "-7"] ∧
      IdToken .later ["-x", "-7"] "-7" ∧
      IdCommand.register.ReadsToken .later ["--log-level", "INFO", "fmt-reg", "-x", "-7"] "-7") ∧
    ∃ dir, (Startup.ofDeclarations Builtin.generic Builtin.declarations).outcome = .ok dir ∧
      IdCommand.register.ShowsNumbers .later Builtin.generic Builtin.declarations dir := by
  have hshort : ¬ Text.IsLongDecimal "-7" := fun h => absurd h.2.1 (by decide +kernel)
  have hleads : Leads .later ["--log-level", "INFO", "fmt-reg", "-x", "-7"] .showRegister
      ["-x", "-7"] :=
    .nextLevel (by decide) (by decide +kernel) (by decide) (leads_word .register _)
  have htoken : IdToken .later ["-x", "-7"] "-7" :=
    .later (by decide) (by decide +kernel) (.operand (by decide) (by decide +kernel))
  obtain ⟨dir, hdir⟩ := Startup.exists_ofDeclarations_iff.mpr Builtin.startable
  exact ⟨⟨hshort, (id_arguments .later .register).1 _ hshort⟩,
    ⟨hleads, htoken, (id_arguments .later .register).2.1 _ _ _ hleads htoken⟩, dir, hdir,
    (id_arguments .later .register).2.2 _ _ _ hdir⟩

/-- A separator is a blank, but it is no margin of a number: a digit with one behind it is not read. -/
theorem separator_not_read :
    Text.isBlank '\x1c' = true ∧ Text.stripped "5\x1c" = "5" ∧ Denotes "5" 5 ∧
      Text.readInteger? "5\x1c" = none ∧ run [] [] ["fmt-reg", "5\x1c"] = .usage := by
  have hfive : Denotes "5" 5 := Text.denotes_toString 5
  exact ⟨by decide +kernel, by decide +kernel, hfive, by decide +kernel, by decide +kernel⟩

end IsaNames.CommandLine
