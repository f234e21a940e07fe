import CatalogFinder.Catalog.Filter
import CatalogFinder.Json.Record
import CatalogFinder.Session.Basic
import CatalogFinder.Settings.Expand

/-!
# Settings

What a user sets: named connections to catalogs, defaults for searches, the filter of a load, and where snapshots are
kept. Everything but the path of a connection has a default. Paths may name variables of the environment.

* `Settings.validate` : no limit is zero;
* `Settings.connection` : the connection of a name, or the default one;
* `Settings.toJson`, `Settings.ofJson?` : the settings as a record.
-/

namespace CatalogFinder

structure Connection where
  /-- The directory of the catalog, with variables. -/
  path : String
  /-- The schema searched when a search names none. -/
  defaultSchema : Option String := none
  /-- The name of the data source, if it is not that of the connection. -/
  dataSource : Option String := none
  deriving DecidableEq, Repr

/-- What a search does if nothing else is said. -/
structure SearchDefaults where
  maxResults : UInt64 := 100
  fetchSize : UInt32 := defaultFetchSize
  caseSensitive : Bool := false
  deriving DecidableEq, Repr

/-- Whether snapshots are used, and where they are kept. -/
structure SnapshotSettings where
  enabled : Bool := true
  /-- The file of the store, with variables. -/
  path : Option String := none
  deriving DecidableEq, Repr

structure Settings where
  connections : NameMap Connection := ∅
  search : SearchDefaults := {}
  filter : Filter := {}
  snapshot : SnapshotSettings := {}
  deriving DecidableEq

inductive SettingsError where
  | fileNotFound (path : String)
  | unreadable (reason : String)
  | malformed (text : String)
  | missingVariable (name : String)
  | connectionNotFound (name : String)
  | noConnections
  | notPositive (key : String)
  deriving DecidableEq, Repr

/-- The text of an error. What is wrong with a text that cannot be read is told by the one who has tried. -/
def SettingsError.message (wrongWith : String → String) : SettingsError → String
  | fileNotFound path => s!"Config file not found: {path}"
  | unreadable reason => s!"Failed to read config file: {reason}"
  | malformed text => s!"Failed to parse config file: {wrongWith text}"
  | missingVariable name => s!"Missing environment variable: {name}"
  | connectionNotFound name => s!"Connection not found: {name}"
  | noConnections => "No connections configured"
  | notPositive key => s!"Invalid configuration: {key} must be positive"

/-- A path with its variables replaced. -/
def expandPath (env : Environment) (path : String) : Except SettingsError String :=
  (expand env path).mapError .missingVariable

namespace Connection

def resolvedPath (env : Environment) (c : Connection) : Except SettingsError String := expandPath env c.path

def sourceName (c : Connection) (name : String) : String := c.dataSource.getD name

def toJson (c : Connection) : Json :=
  .object [("path", .string c.path), ("default_schema", .ofString? c.defaultSchema),
    ("data_source", .ofString? c.dataSource)]

def ofJson? (rules : Json.Rules) (j : Json) : Option Connection := do
  let f ← Json.fields? rules ["path", "default_schema", "data_source"] j
  return {
    path := ← f.required "path" Json.string?
    defaultSchema := ← f.defaulted "default_schema" (Json.nullable? Json.string?) none
    dataSource := ← f.defaulted "data_source" (Json.nullable? Json.string?) none }

end Connection

namespace SearchDefaults

def toJson (s : SearchDefaults) : Json :=
  .object [("max_results", .integer s.maxResults.toNat), ("fetch_size", .integer s.fetchSize.toNat),
    ("case_sensitive", .boolean s.caseSensitive)]

def ofJson? (rules : Json.Rules) (j : Json) : Option SearchDefaults := do
  let f ← Json.fields? rules ["max_results", "fetch_size", "case_sensitive"] j
  let given : SearchDefaults := {}
  return {
    maxResults := ← f.defaulted "max_results" Json.uint64? given.maxResults
    fetchSize := ← f.defaulted "fetch_size" Json.uint32? given.fetchSize
    caseSensitive := ← f.defaulted "case_sensitive" Json.boolean? given.caseSensitive }

end SearchDefaults

namespace Filter

def toJson (f : Filter) : Json :=
  .object [("include_schemas", .strings f.included), ("exclude_schemas", .strings f.excluded)]

def ofJson? (rules : Json.Rules) (j : Json) : Option Filter := do
  let f ← Json.fields? rules ["include_schemas", "exclude_schemas"] j
  return {
    included := ← f.defaulted "include_schemas" (Json.list? Json.string?) []
    excluded := ← f.defaulted "exclude_schemas" (Json.list? Json.string?) [] }

end Filter

namespace SnapshotSettings

/-- The file of the store, if one is set. -/
def resolvedPath (env : Environment) (s : SnapshotSettings) : Except SettingsError (Option String) :=
  match s.path with
  | some path => (expandPath env path).map some
  | none => .ok none

def toJson (s : SnapshotSettings) : Json :=
  .object [("enabled", .boolean s.enabled), ("path", .ofString? s.path)]

def ofJson? (rules : Json.Rules) (j : Json) : Option SnapshotSettings := do
  let f ← Json.fields? rules ["enabled", "path"] j
  return {
    enabled := ← f.defaulted "enabled" Json.boolean? true
    path := ← f.defaulted "path" (Json.nullable? Json.string?) none }

end SnapshotSettings

namespace Settings

/-- Checks that no limit is zero. -/
def validate (s : Settings) : Except SettingsError Unit :=
  if s.search.maxResults = 0 then .error (.notPositive "search.max_results")
  else if s.search.fetchSize = 0 then .error (.notPositive "search.fetch_size")
  else .ok ()

/-- The default connection: the one named `default`, or else the first. -/
def defaultConnection? (s : Settings) : Option (String × Connection) :=
  match s.connections.get? "default" with
  | some c => some ("default", c)
  | none => s.connections.entries.head?

/-- The connection of a name, or the default one if no name is given. -/
def connection (s : Settings) (name? : Option String) : Except SettingsError (String × Connection) :=
  match name? with
  | some name =>
    match s.connections.get? name with
    | some c => .ok (name, c)
    | none => .error (.connectionNotFound name)
  | none =>
    match s.defaultConnection? with
    | some c => .ok c
    | none => .error .noConnections

/-- The variables that the paths in the settings name. -/
def namesUsed (s : Settings) : List String :=
  (s.connections.values.map (·.path) ++ s.snapshot.path.toList).flatMap variablesIn

def toJson (s : Settings) : Json :=
  .object [("connections", .ofNameMap Connection.toJson s.connections), ("search", s.search.toJson),
    ("filters", s.filter.toJson), ("snapshot", s.snapshot.toJson)]

def ofJson? (rules : Json.Rules) (j : Json) : Option Settings := do
  let f ← Json.fields? rules ["connections", "search", "filters", "snapshot"] j
  return {
    connections := ← f.defaulted "connections" (Json.nameMap? (Connection.ofJson? rules)) ∅
    search := ← f.defaulted "search" (SearchDefaults.ofJson? rules) {}
    filter := ← f.defaulted "filters" (Filter.ofJson? rules) {}
    snapshot := ← f.defaulted "snapshot" (SnapshotSettings.ofJson? rules) {} }

end Settings

end CatalogFinder
