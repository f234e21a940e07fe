import CatalogFinder.Files.Basic
import CatalogFinder.Files.DatabaseName
import CatalogFinder.Session.Error

/-!
# Database files

Opening a database finds its file by the names of its path alone: `..` takes away the name before it, whatever that name
leads to. If nothing is there, an empty file is made. A change that was broken off leaves files beside it, which are
cleared away; a directory in their place makes the database unusable.

* `Files.locate` : the place of a database file;
* `Files.connect` : opens the database of a name;
* `DatabaseHandle.write`, `update` : change an open database.
-/

namespace CatalogFinder

/-- An open database: what its name says, and where its file is if it has one. -/
structure DatabaseHandle where
  name : DatabaseName
  place? : Option Place
  deriving DecidableEq

/-- The database in a file. An empty file is a database. -/
def Node.database? : Node → Option Database
  | .database d => some d
  | .text content => if content.isEmpty then some {} else none
  | _ => none

/-- The place beside a place, with a text behind its last name. -/
def Place.beside (place : Place) (ending : String) : Place :=
  place.dropLast ++ (place.getLast?.map (· ++ ending)).toList

/-- The size of a place in bytes, as a path from the root. -/
def Place.size (place : Place) : Nat := place.foldr (fun name size => nameSize name + 1 + size) 0

namespace Files

/-- The longest path of a database file, in bytes. -/
def maxDatabasePath : Nat := 512

/-- The place under one more name. What is there, or on the way, need not exist. -/
def locateNext (files : Files) (here : Place) (name : String) : Except DatabaseError Place :=
  if name.isEmpty || name = "." then .ok here
  else if name = ".." then .ok here.dropLast
  else if maxDatabasePath ≤ here.size + nameSize name + 1 then .error .cannotOpen
  else
    match files.walk (here ++ [name]) [] with
    | .ok _ => .ok (here ++ [name])
    | .error .missing => .ok (here ++ [name])
    | .error _ => .error .cannotOpen

/-- The place of a database file. There has to be room for longer names beside it. -/
def locate (files : Files) (p : Path) : Except DatabaseError Place := do
  let place ← p.names.foldlM files.locateNext (files.start p)
  if place.isEmpty || maxDatabasePath < place.size + DatabaseName.journalEnding.utf8ByteSize then throw .cannotOpen
  return place

/-- What is in an open database. One that is kept nowhere is empty. -/
def contents (files : Files) (h : DatabaseHandle) : Database :=
  ((h.place?.bind files.node?).bind Node.database?).getD {}

/-- The node is a file that changes back to an earlier state could be read from. -/
def isHot : Node → Bool
  | .text content => content.toList.head?.any (· ≠ '\x00')
  | .directory => false
  | _ => true

/-- Clears away what a broken-off change has left beside the file of a database. -/
def settle (h : DatabaseHandle) (place : Place) : FileAction DatabaseError Unit := do
  let journal := place.beside DatabaseName.journalEnding
  let log := place.beside DatabaseName.logEnding
  let files ← get
  let fresh := files.contents h = {}
  -- a journal beside an empty database is stale, whatever is in it
  match files.node? journal with
  | some .directory => if !fresh then throw .cannotOpen
  | some node =>
    if node ≠ .text "" && (fresh || isHot node) then
      if h.name.isWritable then modify (·.remove journal)
      else if !fresh then throw .readOnly
  | none => pure ()
  match files.node? log with
  | some .directory => throw .cannotOpen
  | some node => if node ≠ .text "" && h.name.isWritable then modify (·.remove log)
  | none => pure ()

/-- Opens the file of a database at its place. -/
def openFile (d : DatabaseName) (place : Place) : FileAction DatabaseError Unit := do
  let files ← get
  if d.rightsFile?.any (!files.has ·) then throw .cannotOpen
  match files.node? place with
  | some .directory => throw .cannotOpen
  | some node => if node.database?.isNone then throw .notADatabase
  | none =>
    if d.mode = .create && files.node? place.dropLast = some .directory then set (files.put place (.database {}))
    else throw .cannotOpen
  unless d.isImmutable do settle ⟨d, some place⟩ place

/-- Opens the database of a name, and makes it if it is missing. -/
def connect (name : String) : FileAction DatabaseError DatabaseHandle := do
  if name.toList.contains '\x00' then throw .cannotOpen
  match DatabaseName.ofString? name with
  | none => throw .malformedName
  | some d =>
    if d.isFleeting then return ⟨d, none⟩
    else
      let place ← FileAction.of id ((← get).locate d.file)
      openFile d place
      return ⟨d, some place⟩

end Files

namespace DatabaseHandle

/-- Two databases are one that is shared. -/
def isSharedWith (a b : DatabaseHandle) : Bool :=
  a.name.shared && b.name.shared && a.name.system = b.name.system && a.place? = b.place? &&
    (a.place?.isSome || (a.name.path = b.name.path && !a.name.path.isEmpty))

/-- Changes an open database. -/
def write (h : DatabaseHandle) (d : Database) : FileAction DatabaseError Unit := do
  if !h.name.isWritable then throw .readOnly
  match h.place? with
  | none => return
  | some place =>
    Files.settle h place
    -- meanwhile a file beside the database is used to undo the change
    let journal := place.beside DatabaseName.journalEnding
    if Files.maxNameSize < (journal.getLast?.map nameSize).getD 0 || (← get).node? journal = some .directory then
      throw .cannotOpen
    modify fun files => (files.remove journal).put place (.database d)

/-- Changes an open database if the change makes a difference. -/
def update (h : DatabaseHandle) (change : Database → Database) : FileAction DatabaseError Unit := do
  let d := (← get).contents h
  if change d ≠ d then h.write (change d)

end DatabaseHandle

end CatalogFinder
