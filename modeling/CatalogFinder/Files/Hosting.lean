import CatalogFinder.Files.DatabaseFile

/-!
# Databases in files

A catalog is hosted by two database files in one directory, and a snapshot store is a database file of its own. Opening
any of them makes what is missing: directories, files and tables. The directory of a catalog is made of the text as it
stands, even where the text, with the name of a file behind it, is a locator that leads elsewhere.

* `Files.openCatalog`, `Files.changeCatalog` : the tables hosted in a directory;
* `Files.openStore`, `Files.putStore` : a snapshot store.
-/

namespace CatalogFinder

/-! ## Catalogs -/

/-- The open databases of a catalog. -/
structure CatalogFiles where
  syscat : DatabaseHandle
  sysibm : DatabaseHandle

namespace CatalogFiles

/-- The name of the database of the tables of `SYSCAT` in a catalog's directory. -/
def syscatName (directory : String) : String := Path.joined directory "syscat.db"

/-- The name of the database of the tables of `SYSIBM` in a catalog's directory. -/
def sysibmName (directory : String) : String := Path.joined directory "sysibm.db"

def tables (c : CatalogFiles) (files : Files) : Tables :=
  { (files.contents c.syscat).tables with views := (files.contents c.sysibm).tables.views }

/-- Keeps the tables of a catalog in its files. -/
def put (c : CatalogFiles) (t : Tables) : FileAction DatabaseError Unit := do
  c.syscat.update fun d => { d with tables := { t with views := d.tables.views } }
  c.sysibm.update fun d => { d with tables := { d.tables with views := t.views } }

end CatalogFiles

namespace Files

/-- Opens the databases of the catalog in a directory. -/
def connectCatalog (directory : String) : FileAction SessionError CatalogFiles := do
  ExceptT.adapt (.io ·.message) (makeDirectories (.ofString directory))
  ExceptT.adapt .database do
    let syscat ← connect (CatalogFiles.syscatName directory)
    let sysibm ← connect (CatalogFiles.sysibmName directory)
    if syscat.isSharedWith sysibm then throw .alreadyAttached
    return ⟨syscat, sysibm⟩

/-- Opens the catalog in a directory, and makes what is missing of it. -/
def openCatalog (directory : String) : FileAction SessionError (CatalogFiles × Tables) := do
  let catalog ← connectCatalog directory
  let tables := (catalog.tables (← get)).completed
  ExceptT.adapt .database (catalog.put tables)
  return (catalog, tables)

/-- Changes the tables of the catalog in a directory. What was done before an error stays. -/
def changeCatalog (directory : String) (change : Tables.Change Unit) : FileAction SessionError Unit := do
  let (catalog, tables) ← openCatalog directory
  let (result, tables) := change.run tables
  ExceptT.adapt .database do
    catalog.put tables
    result

/-! ## Snapshot stores -/

/-- Keeps a store in the database that it was opened from. -/
def putStore (h : DatabaseHandle) (store : SnapshotStore) : FileAction StoreError Unit := do
  let d := (← get).contents h
  ExceptT.adapt .database (h.write { d with snapshots := some store })

/-- Opens the store of a name, and makes what is missing of it. -/
def openStore (location : String) : FileAction StoreError (DatabaseHandle × SnapshotStore) := do
  match (Path.ofString location).parent? with
  | some directory => ExceptT.adapt (.io ·.message) (makeDirectories directory)
  | none => pure ()
  let h ← ExceptT.adapt .database (connect location)
  let kept := ((← get).contents h).snapshots
  let store := (kept.getD {}).opened
  if kept ≠ some store then putStore h store
  return (h, store)

end Files

end CatalogFinder
