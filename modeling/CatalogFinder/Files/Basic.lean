import CatalogFinder.Files.Path
import CatalogFinder.Snapshot.Store
import CatalogFinder.Tables.Basic

/-!
# Files

What a program finds on a disk: directories, texts, and databases. A `Place` is where a path leads to; all but the last
name of a path have to name directories that are there.

* `Files.place` : the place of a path, or why it leads to none;
* `Files.readText`, `Files.makeDirectory`, `makeDirectories` : what can be done with files.
-/

namespace CatalogFinder

inductive FileError where
  | missing
  | taken
  | notDirectory
  | isDirectory
  | nameTooLong
  | zeroCharacter
  | notUnicode
  deriving DecidableEq, Repr

def FileError.message : FileError → String
  | missing => "No such file or directory (os error 2)"
  | taken => "File exists (os error 17)"
  | notDirectory => "Not a directory (os error 20)"
  | isDirectory => "Is a directory (os error 21)"
  | nameTooLong => "File name too long (os error 36)"
  | zeroCharacter => "file name contained an unexpected NUL byte"
  | notUnicode => "stream did not contain valid UTF-8"

/-- What a database file holds: tables of a catalog, and snapshots. -/
structure Database where
  tables : Tables := .absent
  snapshots : Option SnapshotStore := none
  deriving DecidableEq

/-- What is found at a place. -/
inductive Node where
  | directory
  | text (content : String)
  | database (content : Database)
  /-- Bytes that are neither a text nor a database. -/
  | bytes
  deriving DecidableEq

/-- The names that lead from the root to a place. -/
abbrev Place := List String

/-- The name under which a place is kept. -/
def Place.key (place : Place) : String := String.join (place.map ("/" ++ ·))

/-- The files of a disk, and the directory that relative paths start from. -/
structure Files where
  nodes : NameMap Node := ∅
  workingDirectory : Place := []
  deriving DecidableEq

/-- Steps that change files, up to the first error. -/
abbrev FileAction (ε α : Type) := ExceptT ε (StateM Files) α

/-- A result that no file has a part in, its error under another name. -/
def FileAction.of {ε ε' α : Type} (wrap : ε → ε') (result : Except ε α) : FileAction ε' α :=
  ExceptT.mk (pure (result.mapError wrap))

namespace Files

/-- What is at a place. The root is always there. -/
def node? (files : Files) (place : Place) : Option Node :=
  if place.isEmpty then some .directory else files.nodes.get? place.key

def put (files : Files) (place : Place) (node : Node) : Files :=
  { files with nodes := files.nodes.insert place.key node }

/-- Takes away what is at a place and below it. -/
def remove (files : Files) (place : Place) : Files :=
  { files with
    nodes := files.nodes.filter fun key _ => key ≠ place.key && !(place.key ++ "/").toList.isPrefixOf key.toList }

/-- The longest name, in bytes, that a file can have. -/
def maxNameSize : Nat := 255

/-- The place that names lead to from a place. -/
def walk (files : Files) : List String → Place → Except FileError Place
  | [], here => .ok here
  | name :: rest, here =>
    match files.node? here with
    | none => .error .missing
    | some .directory =>
      if name.isEmpty || name = "." then walk files rest here
      else if name = ".." then walk files rest here.dropLast
      else if maxNameSize < nameSize name then .error .nameTooLong
      else walk files rest (here ++ [name])
    | some _ => .error .notDirectory

/-- The place that a path starts from. -/
def start (files : Files) (p : Path) : Place := if p.absolute then [] else files.workingDirectory

/-- The longest path, in bytes. -/
def maxPathSize : Nat := 4095

/-- No name of a path contains a zero character, and the path is neither empty nor too long. -/
def checkNames (p : Path) : Except FileError Unit :=
  if p.names.any (·.toList.contains '\x00') then .error .zeroCharacter
  else if p.isEmpty then .error .missing
  else if maxPathSize < p.size then .error .nameTooLong
  else .ok ()

/-- The place that a path leads to. Nothing need be there. -/
def place (files : Files) (p : Path) : Except FileError Place := do
  checkNames p
  files.walk p.names (files.start p)

def find? (files : Files) (p : Path) : Option Node :=
  match files.place p with
  | .ok place => files.node? place
  | .error _ => none

def has (files : Files) (p : Path) : Bool := (files.find? p).isSome

def isDirectory (files : Files) (p : Path) : Bool := files.find? p = some .directory

def readText (files : Files) (p : Path) : Except FileError String := do
  match files.node? (← files.place p) with
  | none => .error .missing
  | some .directory => .error .isDirectory
  | some (.text content) => .ok content
  | some (.database content) => if content = {} then .ok "" else .error .notUnicode
  | some .bytes => .error .notUnicode

/-! ## Directories -/

/-- The files with a new directory. -/
def makeDirectory (files : Files) (p : Path) : Except FileError Files := do
  checkNames p
  match p.trimmedNames.getLast? with
  | none => .error .taken
  | some name =>
    let outer ← files.walk p.trimmedNames.dropLast (files.start p)
    match files.node? outer with
    | none => .error .missing
    | some .directory =>
      if name = "." || name = ".." then .error .taken
      else if maxNameSize < nameSize name then .error .nameTooLong
      else if (files.node? (outer ++ [name])).isSome then .error .taken
      else .ok (files.put (outer ++ [name]) .directory)
    | some _ => .error .notDirectory

def ensureDirectory (p : Path) : FileAction FileError Unit := do
  let files ← get
  match files.makeDirectory p with
  | .ok files => set files
  | .error e => if files.isDirectory p then return else throw e

/-- Makes the first of some paths a directory. If it has no place yet, the next one is made before. -/
def makeLineage : List Path → FileAction FileError Unit
  | [] => throw .missing
  | p :: above => do
    if p.isEmpty then return
    match (← get).makeDirectory p with
    | .error .missing =>
      makeLineage above
      ensureDirectory p
    | _ => ensureDirectory p

/-- Makes a directory and those above it, as far as they are missing. -/
def makeDirectories (p : Path) : FileAction FileError Unit := makeLineage p.lineage

/-- An otherwise empty disk with a working directory. -/
def within (workingDirectory : Place) : Files :=
  (List.range workingDirectory.length).foldl (fun files n => files.put (workingDirectory.take (n + 1)) .directory)
    { workingDirectory := workingDirectory }

end Files

end CatalogFinder
