import CatalogFinder.Command.Invocation
import CatalogFinder.Text.Digits

/-!
# Command lines

A command line leads down a tree of `Level`s: a word that names a level below the present one goes there, and the words
after it belong to that level. At each level stand options and, at some, one operand. An option is written with two
hyphens and its name, or with one hyphen and its letter; letters can be joined. Its value is the next word, which must
not look like an option, or follows at once, with or without `=` behind a letter and with `=` behind a name. After `--`
all words are operands.

An option is checked when the next one or an operand is read, or at the end of its level. The levels below come before
that, so a call for help there wins over a fault in the option in front of it.

* `Reading.ofWords` : the levels with their options and operands;
* `Invocation.ofArguments` : what a command line asks for.
-/

namespace CatalogFinder

/-- Why a command line asks for nothing that can be done. -/
inductive Stop where
  | help
  | version
  | misuse (reason : String)
  deriving DecidableEq, Repr

namespace Command

/-! ## Options -/

/-- An option of a level. -/
structure OptionForm where
  name : String
  letter : Option Char := none
  takesValue : Bool := true
  /-- The option may be given more than once. -/
  repeatable : Bool := false
  /-- The value is one that the option can have. -/
  accepts : String → Bool := fun _ => true

def typeOf? (word : String) : Option ObjectType := (ObjectType.ofWord word).toOption

def countOf? (word : String) : Option UInt64 :=
  match Text.unsigned? word with
  | some n => if n < UInt64.size then some (UInt64.ofNat n) else none
  | none => none

def flag (name : String) (letter : Option Char) : OptionForm := { name := name, letter := letter, takesValue := false }

/-- The name of a settings file; it cannot be empty. -/
def configOption : OptionForm := { name := "config", accepts := (!·.isEmpty) }

/-- Options at every level. -/
def commonOptions : List OptionForm :=
  [configOption, { name := "connection", letter := 'c' }, flag "verbose" 'v', flag "help" 'h']

/-- The types to search for, or the type to look up. -/
def typeOption (repeatable : Bool) : OptionForm :=
  { name := "type", letter := 't', repeatable := repeatable, accepts := fun w => (typeOf? w).isSome }

def outputOption : OptionForm :=
  { name := "output", letter := 'o', accepts := fun w => (OutputForm.ofWord? w).isSome }

/-! ## Levels -/

/-- Where on the way to a command a command line stands. -/
inductive Level where
  | top
  | search
  | resolve
  | types
  | snapshot
  | snapshotSave
  | snapshotClear
  | snapshotStats
  deriving DecidableEq, Repr

namespace Level

def options : Level → List OptionForm
  | top => flag "version" 'V' :: commonOptions
  | search =>
    [typeOption true, { name := "schema", letter := 's' }, flag "global" none, flag "case-sensitive" none,
      flag "definitions" none, { name := "max", letter := 'm', accepts := fun w => (countOf? w).isSome },
      flag "refresh" none, flag "explain" none, outputOption] ++ commonOptions
  | resolve =>
    [typeOption false, { name := "schema", letter := 's' }, { name := "table" }, { name := "view" },
      flag "refresh" none, outputOption] ++ commonOptions
  | snapshotClear => flag "all" none :: commonOptions
  | _ => commonOptions

/-- The levels below a level, by name. -/
def below : Level → List (String × Level)
  | top => [("search", search), ("resolve", resolve), ("types", types), ("snapshot", snapshot)]
  | snapshot => [("save", snapshotSave), ("clear", snapshotClear), ("stats", snapshotStats)]
  | _ => []

def hasOperand : Level → Bool
  | search => true
  | resolve => true
  | _ => false

/-- The level on a way down that words name, where `help` may name the help of a level with others below it. -/
def descends : Level → List String → Bool
  | _, [] => true
  | level, word :: rest =>
    match level.below.lookup word with
    | some next => next.descends rest
    | none => word = "help" && !level.below.isEmpty && rest.isEmpty

end Level

/-! ## Reading words -/

/-- What a command line says: the level that it leads to, the options with their values, those of lower levels first,
and the operand of the level. -/
structure Reading where
  level : Level
  given : List (String × String)
  operand : Option String

/-- What has been read at a level. -/
structure Progress where
  given : List (String × String) := []
  /-- An option that is not checked yet, and its value if that has been read. -/
  pending : Option (OptionForm × Option String) := none
  operand : Option String := none
  /-- All words from here on are operands. -/
  operandsOnly : Bool := false

namespace Progress

/-- Takes an option with its value. -/
def take (p : Progress) (form : OptionForm) (value : String) : Except Stop Progress :=
  if !form.repeatable && p.given.any (·.1 == form.name) then .error (.misuse s!"--{form.name} is given twice")
  else if !form.accepts value then .error (.misuse s!"'{value}' is no value of --{form.name}")
  else .ok { p with given := p.given ++ [(form.name, value)] }

/-- Checks the option that is pending. -/
def settle (p : Progress) : Except Stop Progress :=
  match p.pending with
  | none => .ok p
  | some (form, none) => .error (.misuse s!"--{form.name} needs a value")
  | some (form, some value) => { p with pending := none }.take form value

/-- The last option waits for its value. -/
def isAwaiting (p : Progress) : Bool := p.pending.any (·.2.isNone)

/-- Reads an option without a value. -/
def takeFlag (p : Progress) (form : OptionForm) : Except Stop Progress := do
  let p ← p.settle
  if form.name = "help" then throw .help
  else if form.name = "version" then throw .version
  else p.take form ""

/-- Reads an option behind two hyphens. -/
def readNamed (p : Progress) (level : Level) (word : List Char) : Except Stop Progress := do
  let name := String.ofList (word.takeWhile (· != '='))
  match level.options.find? (·.name == name), word.dropWhile (· != '=') with
  | none, _ => throw (.misuse s!"there is no option --{name}")
  | some form, [] =>
    if form.takesValue then return { ← p.settle with pending := some (form, none) } else p.takeFlag form
  | some form, _ :: value =>
    if form.takesValue then (← p.settle).take form (String.ofList value)
    else throw (.misuse s!"--{name} takes no value")

/-- Reads the letters behind one hyphen. What follows the letter of an option with a value is the value. -/
def readLetters (level : Level) : Progress → List Char → Except Stop Progress
  | p, [] => .ok p
  | p, c :: rest =>
    match level.options.find? (·.letter == some c) with
    | none => .error (.misuse s!"there is no option -{c}")
    | some form =>
      if form.takesValue then
        match rest with
        | [] => p.settle.map fun p => { p with pending := some (form, none) }
        | '=' :: value => do (← p.settle).take form (String.ofList value)
        | value => do (← p.settle).take form (String.ofList value)
      else do readLetters level (← p.takeFlag form) rest

/-- Reads a word that is no option. -/
def readOperand (p : Progress) (level : Level) (word : String) : Except Stop Progress := do
  let p ← p.settle
  if level.hasOperand && p.operand.isNone then return { p with operand := some word }
  else throw (.misuse s!"'{word}' is not expected")

/-- Reads a word at a level. -/
def read (p : Progress) (level : Level) (word : String) : Except Stop Progress :=
  if p.operandsOnly then p.readOperand level word
  else match word.toList, p.pending with
    | ['-', '-'], _ => .ok { p with operandsOnly := true }
    | '-' :: '-' :: name, _ => p.readNamed level name
    | '-' :: c :: letters, _ => readLetters level p (c :: letters)
    | _, some (form, none) => .ok { p with pending := some (form, some word) }
    | _, _ => p.readOperand level word

/-- The end of a level. The level has its operand, and no level has to follow. -/
def finish (p : Progress) (level : Level) : Except Stop Reading := do
  let p ← p.settle
  if !level.below.isEmpty then throw (.misuse "a command is missing")
  else if level.hasOperand && p.operand.isNone then throw (.misuse "an operand is missing")
  else return ⟨level, p.given, p.operand⟩

end Progress

/-- Reads the words of a level and of those below it. -/
def readWords (level : Level) (p : Progress) : List String → Except Stop Reading
  | [] => p.finish level
  | word :: rest =>
    match if p.operandsOnly || p.isAwaiting then none else level.below.lookup word with
    | some next => do
      let reading ← readWords next {} rest
      return { reading with given := reading.given ++ (← p.settle).given }
    | none =>
      if word = "help" && !level.below.isEmpty && !p.operandsOnly && !p.isAwaiting then
        .error (if level.descends rest then .help else .misuse "there is no help on this")
      else do readWords level (← p.read level word) rest

def Reading.ofWords (words : List String) : Except Stop Reading := readWords .top {} words

/-! ## Invocations -/

namespace Reading

def value? (r : Reading) (name : String) : Option String := r.given.lookup name

def values (r : Reading) (name : String) : List String := (r.given.filter (·.1 == name)).map (·.2)

def has (r : Reading) (name : String) : Bool := (r.value? name).isSome

def output (r : Reading) : OutputForm := ((r.value? "output").bind OutputForm.ofWord?).getD .text

/-- The relation that a column belongs to, if only one is named. -/
def owner (r : Reading) : Except Stop (Option Owner) :=
  match r.value? "table", r.value? "view" with
  | some _, some _ => .error (.misuse "--table cannot be used with --view")
  | some table, none => .ok (some (.table table))
  | none, some view => .ok (some (.view view))
  | none, none => .ok none

def command (r : Reading) : Except Stop Command :=
  match r.level with
  | .search =>
    .ok (.search {
      mask := r.operand.getD ""
      types := (r.values "type").filterMap typeOf?
      schema := r.value? "schema"
      globalSearch := r.has "global"
      caseSensitive := r.has "case-sensitive"
      inDefinitions := r.has "definitions"
      maxResults := (r.value? "max").bind countOf?
      refresh := r.has "refresh"
      explain := r.has "explain"
      output := r.output })
  | .resolve =>
    match (r.value? "type").bind typeOf? with
    | none => .error (.misuse "--type is missing")
    | some type => r.owner.map fun owner =>
      .resolve {
        name := r.operand.getD ""
        objectType := type
        schema := r.value? "schema"
        owner := owner
        refresh := r.has "refresh"
        output := r.output }
  | .types => .ok .types
  | .snapshotSave => .ok (.snapshot .save)
  | .snapshotClear => .ok (.snapshot (if r.has "all" then .clearAll else .clear))
  | .snapshotStats => .ok (.snapshot .stats)
  | .top => .error (.misuse "a command is missing")
  | .snapshot => .error (.misuse "a command is missing")

end Reading

end Command

def Invocation.ofArguments (words : List String) : Except Stop Invocation := do
  let reading ← Command.Reading.ofWords words
  return ⟨reading.value? "config", reading.value? "connection", ← reading.command⟩

end CatalogFinder
