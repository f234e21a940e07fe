import CatalogFinder.Files.Path

/-!
# Names of databases

A database is named by a path. A name that starts with `file:` is a locator instead: a host, which can only be this one,
a path, options behind a question mark, and a comment behind a number sign. In a locator a percent sign and two
hexadecimal digits stand for a byte; a zero byte ends the path, or the name or value of an option, that it stands in.

* `DatabaseName` : what a name says, `DatabaseName.ofString?` : the same of a text, unless it is malformed;
* `DatabaseName.isFleeting` : the database is kept nowhere;
* `DatabaseName.isWritable` : the database may be changed.
-/

namespace CatalogFinder

/-- For what a database is opened: in memory, to be read, to be changed, or to be made if it is missing. -/
inductive OpenMode where
  | memory
  | readOnly
  | readWrite
  | create
  deriving DecidableEq, Repr

namespace OpenMode

def ofName? (name : List UInt8) : Option OpenMode :=
  [(Text.encode "memory", memory), (Text.encode "ro", readOnly), (Text.encode "rw", readWrite),
    (Text.encode "rwc", create)].lookup name

def rank : OpenMode → Nat
  | memory => 0
  | readOnly => 1
  | readWrite => 2
  | create => 3

/-- A mode may be narrowed to another one, but not widened. In memory everything is permitted. -/
def allows (mode other : OpenMode) : Bool := mode = memory || other.rank ≤ mode.rank

end OpenMode

/-- What a name says about a database. -/
structure DatabaseName where
  path : List UInt8
  mode : OpenMode := .create
  /-- Whoever opens the database in one program shares it. -/
  shared : Bool := false
  /-- The kind of files that the database is kept in. -/
  system : List UInt8 := Text.encode "unix"
  options : List (List UInt8 × List UInt8) := []
  deriving DecidableEq, Repr

namespace DatabaseName

/-! ## Reading -/

/-- The bytes that the characters of a locator stand for, up to a zero byte. -/
def decode : List Char → List UInt8
  | '%' :: a :: b :: rest =>
    match Text.digitValue? 16 a, Text.digitValue? 16 b with
    | some m, some n => if m = 0 && n = 0 then [] else UInt8.ofNat (m * 16 + n) :: decode rest
    | _, _ => 0x25 :: decode (a :: b :: rest)
  | c :: rest => String.utf8EncodeChar c ++ decode rest
  | [] => []

/-- The name and the value of an option, unless its name is empty. -/
def optionOf? (cs : List Char) : Option (List UInt8 × List UInt8) :=
  let name := decode (cs.takeWhile (· ≠ '='))
  if name.isEmpty then none else some (name, decode ((cs.dropWhile (· ≠ '=')).drop 1))

/-- What a name says together with one more option, unless the option has no such value. -/
def withOption? (d : DatabaseName) (option : List UInt8 × List UInt8) : Option DatabaseName :=
  let (name, value) := option
  let d := { d with options := d.options ++ [option] }
  if name = Text.encode "mode" then do
    let mode ← OpenMode.ofName? value
    guard (d.mode.allows mode)
    return { d with mode := mode }
  else if name = Text.encode "cache" then
    if value = Text.encode "shared" then some { d with shared := true }
    else if value = Text.encode "private" then some { d with shared := false }
    else none
  else if name = Text.encode "vfs" then some { d with system := value }
  else some d

/-- A database of this system is kept in memory. -/
def memorySystem : List UInt8 := Text.encode "memdb"

/-- The systems that there are. -/
def systems : List (List UInt8) :=
  memorySystem :: ["unix", "unix-none", "unix-dotfile", "unix-excl"].map Text.encode

/-- A locator behind its mark and host. -/
def ofLocal? (cs : List Char) : Option DatabaseName := do
  let cs := cs.takeWhile (· ≠ '#')
  let options := piecesBetween '&' ((cs.dropWhile (· ≠ '?')).drop 1)
  let d ← (options.filterMap optionOf?).foldlM withOption? { path := decode (cs.takeWhile (· ≠ '?')) }
  guard (systems.contains d.system)
  return d

/-- A locator behind its mark. -/
def ofLocator? : List Char → Option DatabaseName
  | '/' :: '/' :: rest => do
    let host := String.ofList (rest.takeWhile (· ≠ '/'))
    guard (host.isEmpty || host = "localhost")
    ofLocal? (rest.dropWhile (· ≠ '/'))
  | cs => ofLocal? cs

def ofString? (name : String) : Option DatabaseName :=
  match name.toList with
  | 'f' :: 'i' :: 'l' :: 'e' :: ':' :: rest => ofLocator? rest
  | _ => some { path := Text.encode name }

/-! ## Meaning -/

/-- The first value of an option. -/
def option? (d : DatabaseName) (name : String) : Option (List UInt8) := d.options.lookup (Text.encode name)

/-- The value says yes: in words, or by a number whose last byte is not zero. -/
def saysYes (value : List UInt8) : Bool :=
  let cs := value.map fun b => (Char.ofNat b.toNat).toLower
  match cs.takeWhile Text.isDigit with
  | [] => ["on", "yes", "true"].contains (String.ofList cs)
  | digits =>
    let n := (Text.natOfChars? 10 digits).getD 0
    n < 0x80000000 && n % 0x100 ≠ 0

/-- The database is kept in memory because of its name or its mode. -/
def isTransient (d : DatabaseName) : Bool :=
  d.path.isEmpty || d.path = Text.encode ":memory:" || d.mode = .memory

/-- The database is kept nowhere: it is forgotten when it is closed. -/
def isFleeting (d : DatabaseName) : Bool := d.isTransient || d.system = memorySystem

/-- The file is promised not to change, so that nothing beside it is looked at. -/
def isImmutable (d : DatabaseName) : Bool := (d.option? "immutable").any saysYes

/-- The database may be changed. -/
def isWritable (d : DatabaseName) : Bool := d.mode ≠ .readOnly && (d.isTransient || !d.isImmutable)

def file (d : DatabaseName) : Path := .ofBytes d.path

/-- The file that a new database takes its rights from. -/
def rightsFile? (d : DatabaseName) : Option Path := (d.option? "modeof").map Path.ofBytes

/-- What is written behind the path of a file for the file that undoes a change. -/
def journalEnding : String := "-journal"

/-- What is written behind the path of a file for the file that changes are gathered in. -/
def logEnding : String := "-wal"

/-- The files that are looked at when the database is opened. -/
def filesUsed (d : DatabaseName) : List Path :=
  if d.isFleeting then []
  else [d.file, d.file.extended journalEnding, d.file.extended logEnding] ++ d.rightsFile?.toList

end DatabaseName

end CatalogFinder
