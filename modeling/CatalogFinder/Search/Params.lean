import CatalogFinder.Catalog.Category
import CatalogFinder.Text.Case.Upper

/-!
# Search parameters

What a search looks for and where. A mask without `%` is the beginning of a name; unless case matters the mask is
folded to upper case, as names are stored. Types that no category serves are legal and match nothing.

* `Params.validate` : a search can be run with the parameters;
* `Params.effectiveMask`, `Params.categories`, `Params.scopeWithin` : what the parameters come down to.
-/

namespace CatalogFinder

/-- What to look for, and where. -/
structure Params where
  mask : String
  caseSensitive : Bool := false
  objectTypes : List ObjectType := []
  /-- The schema to search in. -/
  scope : Option String := none
  /-- Without a scope, search every schema and not only the default one. -/
  globalSearch : Bool := false
  /-- Match the texts of views and routines too. -/
  inDefinitions : Bool := false
  maxResults : UInt64 := 100
  deriving DecidableEq, Repr

/-- Why no search can be run with some parameters. -/
inductive ParamsError where
  | emptyMask
  | noTypes
  | noResults
  deriving DecidableEq, Repr

def ParamsError.message : ParamsError → String
  | emptyMask => "name mask must not be empty"
  | noTypes => "at least one object type must be requested"
  | noResults => "maximum result count must be positive"

namespace Params

def validate (p : Params) : Except ParamsError Unit :=
  if p.mask.isEmpty then .error .emptyMask
  else if p.objectTypes.isEmpty then .error .noTypes
  else if p.maxResults = 0 then .error .noResults
  else .ok ()

/-- The mask that names are compared with. -/
def effectiveMask (p : Params) : String :=
  let mask := if p.caseSensitive then p.mask else Text.upper p.mask
  if mask.toList.contains '%' then mask else mask ++ "%"

/-- The categories asked for, in their order. -/
def categories (p : Params) : List Category :=
  Category.all.filter fun c => p.objectTypes.any (·.category? == some c)

/-- The schema to search in, if the default schema is this one. -/
def scopeWithin (p : Params) (defaultSchema : Option String) : Option String :=
  match p.scope with
  | some schema => some schema
  | none => if p.globalSearch then none else defaultSchema

end Params

end CatalogFinder
