import CatalogFinder.Catalog.Category

/-!
# Invocations

What the program can be told to do on its command line.
-/

namespace CatalogFinder

/-- How results are written: a line each, or as JSON over several lines. -/
inductive OutputForm where
  | text
  | json
  deriving DecidableEq, Repr

def OutputForm.ofWord? (word : String) : Option OutputForm :=
  [("text", text), ("json", json)].lookup word

structure SearchCommand where
  mask : String
  /-- The types to search for; all categories if there is none. -/
  types : List ObjectType := []
  schema : Option String := none
  globalSearch : Bool := false
  caseSensitive : Bool := false
  inDefinitions : Bool := false
  maxResults : Option UInt64 := none
  /-- Load the catalog even if there is a snapshot of it. -/
  refresh : Bool := false
  /-- Write the queries of the search instead of running it. -/
  explain : Bool := false
  output : OutputForm := .text
  deriving DecidableEq, Repr

/-- The relation that a column belongs to. -/
inductive Owner where
  | table (name : String)
  | view (name : String)
  deriving DecidableEq, Repr

structure ResolveCommand where
  name : String
  objectType : ObjectType
  schema : Option String := none
  owner : Option Owner := none
  /-- Load the catalog even if there is a snapshot of it. -/
  refresh : Bool := false
  output : OutputForm := .text
  deriving DecidableEq, Repr

inductive SnapshotCommand where
  | save
  /-- Delete the snapshot of the connection. -/
  | clear
  /-- Delete the snapshots of all connections. -/
  | clearAll
  | stats
  deriving DecidableEq, Repr

inductive Command where
  | search (c : SearchCommand)
  | resolve (c : ResolveCommand)
  | types
  | snapshot (c : SnapshotCommand)
  deriving DecidableEq, Repr

/-- What to do, with which settings and on which connection. -/
structure Invocation where
  /-- The settings file, if it is not to be looked for. -/
  config : Option String := none
  /-- The connection, if it is not the default one. -/
  connection : Option String := none
  command : Command
  deriving DecidableEq, Repr

end CatalogFinder
