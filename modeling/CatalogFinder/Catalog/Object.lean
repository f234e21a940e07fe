import CatalogFinder.Catalog.Schema

/-!
# Catalog objects

A `CatalogObject` is a relation, a column or a routine together with where it was found. `Schema.object?` finds the
objects that lie directly in a schema, `Relation.object?` the columns of a relation.
-/

namespace CatalogFinder

/-- An object of the catalog and the schema that holds it. -/
inductive CatalogObject where
  | relation (schema : String) (r : Relation)
  | column (schema owner : String) (c : Column)
  | routine (schema : String) (r : Routine)
  deriving DecidableEq, Repr

namespace CatalogObject

def category : CatalogObject → Category
  | relation _ r => r.category
  | column .. => .column
  | routine .. => .routine

def name : CatalogObject → String
  | relation _ r => r.name
  | column _ _ c => c.name
  | routine _ r => r.name

def schema : CatalogObject → String
  | relation s _ => s
  | column s _ _ => s
  | routine s _ => s

end CatalogObject

/-- The object of a category and name that lies directly in a schema. A column lies in no schema directly. -/
def Schema.object? (s : Schema) (category : Category) (name : String) : Option CatalogObject :=
  match category with
  | .column => none
  | .routine => (s.routine? name).map (.routine s.name)
  | category => ((s.relation? name).filter (·.category = category)).map (.relation s.name)

def Relation.object? (r : Relation) (schema name : String) : Option CatalogObject :=
  (r.column? name).map (.column schema r.name)

end CatalogFinder
