import CatalogFinder.Catalog.Object

/-!
# References

A reference names an object of the catalog and the container that it lives in. It is a key into a cache, not a handle:
it can be kept while the cache is loaded anew, and `Reference.resolve?` looks the object up when it is wanted.
-/

namespace CatalogFinder

/-- What an object lives in. -/
inductive Container where
  | schema (schema : String)
  | table (schema table : String)
  | view (schema view : String)
  deriving DecidableEq, Repr

namespace Container

def kind : Container → String
  | schema _ => "schema"
  | table .. => "table"
  | view .. => "view"

def name : Container → String
  | schema s => s
  | table _ t => t
  | view _ v => v

/-- The schema that is or holds the container. -/
def schemaName : Container → String
  | schema s => s
  | table s _ => s
  | view s _ => s

/-- The name of the container with its schema. -/
def display : Container → String
  | schema s => s
  | table s t => s ++ "." ++ t
  | view s v => s ++ "." ++ v

/-- The object of a category and name that lives in the container. -/
def child? (cache : Cache) (category : Category) (name : String) : Container → Option CatalogObject
  | schema s => (cache.schema? s).bind (·.object? category name)
  | table s t =>
    if category = .column then
      (cache.schema? s).bind fun kept => (kept.table? t).bind (·.object? kept.name name)
    else none
  | view s v =>
    if category = .column then
      (cache.schema? s).bind fun kept => (kept.view? v).bind (·.object? kept.name name)
    else none

end Container

/-- A hit of a search: enough to name an object and to find it later. -/
structure Reference where
  name : String
  container : Container
  category : Category
  deriving DecidableEq, Repr

namespace Reference

/-- The name with all that it lives in. -/
def qualifiedName (r : Reference) : String := r.container.display ++ "." ++ r.name

def display (r : Reference) : String := r.category.label ++ " " ++ r.qualifiedName

/-- The object that the reference names, if the cache has it and it is of the reference's category. -/
def resolve? (cache : Cache) (r : Reference) : Option CatalogObject :=
  (r.container.child? cache r.category r.name).filter fun object => object.category = r.category

end Reference

end CatalogFinder
