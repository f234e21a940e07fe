import CatalogFinder.Search.Plan
import CatalogFinder.Search.Reference

/-!
# From rows to references

`Group.tag` reads one row of a group's reply as a reference. A row that names a schema outside the cache, a relation
of an unknown code, or a column whose owner is neither a table nor a view gives no reference; a row that lacks what has
to be there is an error.
-/

namespace CatalogFinder.Group

def tagRelation (cache : Cache) (row : Row) : Except SessionError (Option Reference) := do
  let schema ← row.requireTrimmed "TABSCHEMA"
  let name ← row.require "TABNAME"
  let code ← row.require "TYPE"
  match TypeCodes.standard.categoryFor? code, cache.schema? schema with
  | some category, some _ => return some ⟨name, .schema schema, category⟩
  | _, _ => return none

/-- The container of the columns of an owner: a table if it is one, else a view. -/
def ownerContainer? (cache : Cache) (schema owner : String) : Option Container :=
  (cache.schema? schema).bind fun kept =>
    if (kept.table? owner).isSome then some (.table schema owner)
    else if (kept.view? owner).isSome then some (.view schema owner)
    else none

def tagColumn (cache : Cache) (row : Row) : Except SessionError (Option Reference) := do
  let schema ← row.requireTrimmed "TABSCHEMA"
  let owner ← row.require "TABNAME"
  let column ← row.require "COLNAME"
  return (ownerContainer? cache schema owner).map (⟨column, ·, .column⟩)

def tagRoutine (cache : Cache) (row : Row) : Except SessionError (Option Reference) := do
  let schema ← row.requireTrimmed "ROUTINESCHEMA"
  let name ← row.require "ROUTINENAME"
  return (cache.schema? schema).map fun _ => ⟨name, .schema schema, .routine⟩

/-- The reference that a row of the group stands for, if it stands for one. -/
def tag (cache : Cache) (row : Row) : Group → Except SessionError (Option Reference)
  | tableLike => tagRelation cache row
  | columns => tagColumn cache row
  | routines => tagRoutine cache row

/-- The reference of a row; the first row of a reply is also checked for the columns that the group needs. -/
def read (cache : Cache) (first : Bool) (row : Row) (g : Group) : Except SessionError (Option Reference) :=
  match if first then g.requiredColumns.find? (!row.has ·) else none with
  | some missing => .error (.missingColumn missing)
  | none => g.tag cache row

end CatalogFinder.Group
