import CatalogFinder.Catalog.Load
import CatalogFinder.Files.Hosting
import CatalogFinder.Search.Run
import CatalogFinder.Settings.Lookup
import CatalogFinder.Snapshot.Identity
import CatalogFinder.Tables.Hosted

/-!
# The catalog of a command

A command runs against a `Target`: the catalog of a connection, hosted in the connection's directory. What it needs to
know of the catalog comes from a cache, and the cache from the catalog itself or, while snapshots are used, from the
snapshot of the same connection and filter.

* `openTarget` : opens the catalog of a connection;
* `storeLocation` : where the snapshots are kept;
* `Target.cache` : the cache that a command works with.
-/

namespace CatalogFinder

inductive CommandError where
  | settings (cause : SettingsError)
  | session (cause : SessionError)
  | load (cause : LoadError)
  | snapshot (cause : StoreError)
  | search (cause : SearchError)
  | notCached (type : ObjectType)
  | noSchema
  deriving DecidableEq, Repr

/-- How the readers of texts say what is wrong with one. Their words are not the program's own. -/
structure Wording where
  /-- What is wrong with the text of a settings file. -/
  settings : (text : String) → String
  /-- What is wrong with the text under a key of a store. -/
  snapshot : (key text : String) → String

def CommandError.message (w : Wording) : CommandError → String
  | settings cause => cause.message w.settings
  | session cause => s!"Failed to open catalog: {cause.message}"
  | load cause => s!"Failed to load catalog: {cause.message}"
  | snapshot cause => s!"Snapshot error: {cause.message w.snapshot}"
  | search cause => cause.message
  | notCached type => s!"{type.label} objects are not kept in the catalog cache"
  | noSchema => "--schema is required without a default schema"

/-- What a command finds around it, besides files. -/
structure Surroundings where
  environment : Environment
  /-- The time in seconds. -/
  time : Nat

/-- The steps of a command. -/
abbrev CommandAction (α : Type) := FileAction CommandError α

/-- A catalog, and the connection through which it was opened. -/
structure Target where
  name : String
  connection : Connection
  catalog : HostedCatalog

namespace Command

/-- Opens the catalog of a connection. -/
def openTarget (s : Surroundings) (settings : Settings) (name? : Option String) : CommandAction Target := do
  let (name, connection) ← FileAction.of .settings (settings.connection name?)
  let directory ← FileAction.of .settings (connection.resolvedPath s.environment)
  let (_, tables) ← ExceptT.adapt .session (Files.openCatalog directory)
  return ⟨name, connection, .ofTables (connection.sourceName name) connection.defaultSchema tables⟩

/-- Where the snapshots are kept: at the path that is set, or below the home directory if there is one. -/
def storeLocation (s : Surroundings) (settings : Settings) : Except CommandError String :=
  match settings.snapshot.resolvedPath s.environment with
  | .error e => .error (.settings e)
  | .ok (some path) => .ok path
  | .ok none =>
    match s.environment.home? with
    | some home => .ok (Path.joined home ".catalog-search/snapshots.db")
    | none => .error (.snapshot .noHomeDirectory)

/-- The databases that a command may open. -/
def databasesUsed (s : Surroundings) (settings : Settings) (name? : Option String) : List String :=
  let catalog := match (settings.connection name?).bind fun c => c.2.resolvedPath s.environment with
    | .ok directory => [CatalogFiles.syscatName directory, CatalogFiles.sysibmName directory]
    | .error _ => []
  catalog ++ (storeLocation s settings).toOption.toList

def openStore (s : Surroundings) (settings : Settings) : CommandAction (DatabaseHandle × SnapshotStore) := do
  let location ← FileAction.of id (storeLocation s settings)
  ExceptT.adapt .snapshot (Files.openStore location)

def putStore (h : DatabaseHandle) (store : SnapshotStore) : CommandAction Unit :=
  ExceptT.adapt .snapshot (Files.putStore h store)

end Command

namespace Target

/-- What a snapshot of the target is made from. -/
def identity (t : Target) (settings : Settings) : SnapshotIdentity := ⟨t.connection, settings.filter⟩

/-- The cache as the catalog is now. -/
def load (t : Target) (settings : Settings) : Except LoadError Cache :=
  CatalogFinder.load t.catalog.session settings.filter settings.search.fetchSize

/-- The cache of the target's snapshot in a store or, if there is none or a fresh one is wanted, as the catalog is now;
and the store with that cache in it, if it has been put there. -/
def cacheIn (t : Target) (settings : Settings) (time : Nat) (refresh : Bool) (store : SnapshotStore) :
    Except CommandError (Cache × Option SnapshotStore) := do
  let hash := (t.identity settings).hash
  let kept ← if refresh then pure none else (store.load hash).mapError .snapshot
  match kept with
  | some cache => return (cache, none)
  | none =>
    let cache ← (t.load settings).mapError .load
    return (cache, some (store.save hash cache time))

/-- The cache that a command works with. -/
def cache (t : Target) (s : Surroundings) (settings : Settings) (refresh : Bool) : CommandAction Cache := do
  if settings.snapshot.enabled then
    let (h, store) ← Command.openStore s settings
    let (cache, saved?) ← FileAction.of id (t.cacheIn settings s.time refresh store)
    match saved? with
    | some saved => Command.putStore h saved
    | none => pure ()
    return cache
  else FileAction.of .load (t.load settings)

end Target

end CatalogFinder
