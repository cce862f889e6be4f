import IsaNames.IdRange
import IsaNames.Notice

/-!
# What can go wrong

## Main definitions

* `Category`, `NameWrite`, `SpaceWrite` — what flaws speak of.
* `FlawCause`, `Flaw` — a fault in static declarations, with the owner of the faulty data.
* `Miss` — a name that was looked up and is not there.
* `Fault` — everything that an operation of the library can fail with.
-/

namespace IsaNames

/-! ### Flaws of declarations -/

/-- Which of the two ranges of an architecture is meant. -/
inductive Category
  | registers
  | opcodes
  deriving DecidableEq, Repr

/-- The word for the category. -/
def Category.word : Category → String
  | .registers => "registros"
  | .opcodes => "opcodes"

/-- The writes to a draft of a lexicon. -/
inductive NameWrite
  /-- A name is made to stand for an ID. -/
  | assign
  /-- A name is made to stand for what another one stands for. -/
  | link
  /-- An ID is made to be shown by a name. -/
  | display
  deriving DecidableEq, Repr

/-- The word for the write. -/
def NameWrite.word : NameWrite → String
  | .assign => "define"
  | .link => "alias"
  | .display => "set_canonical"

/-- The writes to a space of IDs. -/
inductive SpaceWrite
  /-- A range of the category is handed out. -/
  | range (category : Category)
  /-- An architecture is registered as a whole. -/
  | architecture
  /-- The names of an architecture are made available. -/
  | attachment
  deriving DecidableEq, Repr

/-- The words for the write. -/
def SpaceWrite.words : SpaceWrite → String
  | .range category => "registrar rango de " ++ category.word
  | .architecture => "registrar arquitectura"
  | .attachment => "attach"

/-- What is wrong with a declaration. -/
inductive FlawCause
  /-- A write to names of this kind that are closed. -/
  | closedNames (kind : String) (write : NameWrite)
  /-- A name for the ID that is blank. -/
  | emptyName (kind : String) (id : Int)
  /-- The key already stands for another ID. -/
  | reassigned (key : String) (old new : Int)
  /-- The alias is for a key that stands for nothing. -/
  | danglingAlias (key target : String)
  /-- The name to be shown for the ID does not stand for it. -/
  | strayDisplay (display : String) (id : Int)
  /-- The ID is already shown by another name. -/
  | displayTaken (kind : String) (id : Int) (old new : String)
  /-- The ID of a declared range, at the given position, has no name to be shown by. -/
  | unnamed (kind : String) (id offset : Int) (range : IdRange)
  /-- The opcodes of the architecture would begin inside the generic ones. -/
  | opcodesInGeneric (base : Int) (generic : IdRange)
  /-- The architecture was built with other generic mnemonics before. -/
  | otherGeneric
  /-- An architecture of this name was registered before. -/
  | registeredTwice (name : String)
  /-- A write to a space of IDs that is closed. -/
  | closedSpace (write : SpaceWrite)
  /-- The range overlaps one that belongs to another owner. -/
  | rangesOverlap (category : Category) (new old : IdRange) (oldOwner : String)
  deriving DecidableEq, Repr

namespace FlawCause

/-- What the flaw says. -/
def phrase : FlawCause → Text.Phrase
  | closedNames kind write => "tabla de " ++ kind ++ " congelada: " ++ write.word ++ " no permitido"
  | emptyName kind id => "nombre de " ++ kind ++ " vacío para el ID " ++ id
  | reassigned key old new =>
    "'" ++ key ++ "' ya está definido como " ++ old ++ "; no puede redefinirse como " ++ new
  | danglingAlias key target =>
    "alias '" ++ key ++ "' apunta a '" ++ target ++ "', que no está definido"
  | strayDisplay display id => "nombre canónico '" ++ display ++ "' no resuelve a " ++ id
  | displayTaken kind id old new =>
    kind ++ " " ++ id ++ " ya tiene nombre canónico '" ++ old ++ "'; '" ++ new ++ "' rechazado"
  | unnamed kind id offset range =>
    kind ++ " " ++ id ++ " (posición " ++ offset ++ " de " ++ range.phrase ++
      ") sin nombre canónico"
  | opcodesInGeneric base generic =>
    "base de opcodes " ++ base ++ " invade el rango genérico " ++ generic.phrase
  | otherGeneric => "tablas ya construidas con otra lista de mnemónicos genéricos"
  | registeredTwice name => "la arquitectura '" ++ name ++ "' ya fue registrada"
  | closedSpace write => "espacio de nombres congelado: " ++ write.words ++ " no permitido"
  | rangesOverlap category new old oldOwner =>
    "rango de " ++ category.word ++ " " ++ new.phrase ++ " solapa " ++ old.phrase ++ " de '" ++
      oldOwner ++ "'"

/-- The text of what the flaw says. -/
def message (c : FlawCause) : String := c.phrase.text

/-- What to do about it, where there is something to say. -/
def hint : FlawCause → Option String
  | danglingAlias .. => some "genere los nombres numerados antes de superponer alias"
  | strayDisplay .. => some "defina el nombre antes de hacerlo canónico"
  | _ => none

end FlawCause

/-- A fault in the static declarations of an owner. -/
structure Flaw where
  cause : FlawCause
  owner : Option String
  deriving DecidableEq, Repr

/-- What is told about the flaw. -/
def Flaw.notice (f : Flaw) : Notice := Notice.error f.cause.message f.owner f.cause.hint

/-! ### Misses -/

/-- A name of some kind that stands for nothing, as it was asked for. -/
structure Miss where
  kind : String
  name : String
  deriving DecidableEq, Repr

namespace Miss

/-- The kinds of names that are asked for. -/
def register : String := "registro"

/-- The kind of the mnemonics. -/
def instruction : String := "instrucción"

/-- The kind of the names of architectures. -/
def architecture : String := "arquitectura"

/-- The words before the name. -/
def label (m : Miss) : String :=
  if m.kind = register then "Registro inválido"
  else if m.kind = instruction then "Instrucción desconocida"
  else if m.kind = architecture then "Arquitectura desconocida"
  else "Nombre inválido (" ++ m.kind ++ ")"

/-- The text of the complaint. -/
def message (m : Miss) : String := m.label ++ ": " ++ m.name

end Miss

/-! ### Faults -/

/-- Everything that an operation can fail with. -/
inductive Fault
  /-- Something is wrong with a declaration. -/
  | flaw (flaw : Flaw)
  /-- A name is not known. -/
  | miss (miss : Miss)
  /-- A range is impossible, or an ID is outside of one. -/
  | badRange (cause : BadRange)
  /-- A range has more IDs than a sequence can report. -/
  | tooLong
  /-- An integer has more digits than can be written. -/
  | numberTooLong
  deriving DecidableEq, Repr

/-- The text of the complaint. -/
def Fault.message : Fault → String
  | flaw f => f.notice.text
  | miss m => m.message
  | badRange b => b.message
  | tooLong => "cannot fit 'int' into an index-sized integer"
  | numberTooLong => Text.digitLimitComplaint

/-- The text of a phrase, or the fault that it cannot be written. -/
def Fault.write (p : Text.Phrase) : Except Fault String :=
  match p.write? with
  | some text => .ok text
  | none => .error .numberTooLong

end IsaNames
