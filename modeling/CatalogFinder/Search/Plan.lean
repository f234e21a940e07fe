import CatalogFinder.Catalog.TypeCode
import CatalogFinder.Search.Params
import CatalogFinder.Session.Basic

/-!
# Plans

A search asks the catalog at most three things, always in one order: for relations, for columns, for routines. Each
`Group` of categories is served by one of these requests, and a plan holds the requests of the groups that some wanted
category belongs to.
-/

namespace CatalogFinder

/-- Categories that one request serves. -/
inductive Group where
  | tableLike
  | columns
  | routines
  deriving DecidableEq, Repr

namespace Group

/-- The groups in the order in which they are asked for. -/
def all : List Group := [tableLike, columns, routines]

def name : Group → String
  | tableLike => "table_like"
  | columns => "columns"
  | routines => "routines"

def ofCategory : Category → Group
  | .column => columns
  | .routine => routines
  | _ => tableLike

/-- The columns that the rows of the group have to have. -/
def requiredColumns : Group → List String
  | tableLike => ["TABSCHEMA", "TABNAME", "TYPE"]
  | columns => ["TABSCHEMA", "TABNAME", "COLNAME"]
  | routines => ["ROUTINESCHEMA", "ROUTINENAME"]

/-- What the group asks of the catalog. -/
def request (p : Params) (scope : Option String) : Group → Request
  | tableLike =>
    .matchingRelations scope p.effectiveMask (TypeCodes.standard.codesForAll p.categories) p.inDefinitions
  | columns => .matchingColumns scope p.effectiveMask
  | routines => .matchingRoutines scope p.effectiveMask p.inDefinitions

end Group

namespace Params

/-- The groups that serve a wanted category. -/
def groups (p : Params) : List Group := Group.all.filter fun g => p.categories.any (Group.ofCategory · == g)

/-- The groups with their queries, in the order in which a search runs them. -/
def plan (p : Params) (dialect : Dialect) (defaultSchema : Option String) (fetchSize : UInt32) :
    List (Group × Query) :=
  p.groups.map fun g => (g, ⟨g.request p (p.scopeWithin defaultSchema), dialect, fetchSize⟩)

end Params

end CatalogFinder
