import CatalogFinder.Tables.Answer

/-!
# Hosted catalogs

A catalog hosted by a database: its tables under the name of a data source. Whoever holds the catalog can cancel the
sessions that are opened on it, and take that back.
-/

namespace CatalogFinder

/-- A catalog hosted by a database. -/
structure HostedCatalog where
  name : String
  defaultSchema : Option String := none
  tables : Tables := .empty
  cancelled : Bool := false

namespace HostedCatalog

/-- A catalog over tables, of which those missing are made. -/
def ofTables (name : String) (defaultSchema : Option String) (tables : Tables) : HostedCatalog :=
  { name := name, defaultSchema := defaultSchema, tables := tables.completed }

def session (c : HostedCatalog) : Session where
  dataSource := c.name
  dialect := .sqlite
  defaultSchema := c.defaultSchema
  cancelAfter := if c.cancelled then some 0 else none
  reply q := c.tables.reply q.request

def source (c : HostedCatalog) : Source := ⟨c.name, .ok c.session⟩

end HostedCatalog

end CatalogFinder
