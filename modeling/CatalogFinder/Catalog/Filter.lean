import CatalogFinder.Text.Like

/-!
# Schema filters

A filter accepts the schemas whose names match one of its `included` patterns, or any name if there is none, except
those whose names match one of its `excluded` patterns. Letter case does not matter to a filter.
-/

namespace CatalogFinder

/-- Which schemas are kept. -/
structure Filter where
  included : List String := []
  excluded : List String := []
  deriving DecidableEq, Repr

namespace Filter

def acceptAll : Filter := {}

def accepts (f : Filter) (schema : String) : Bool :=
  (f.included.isEmpty || f.included.any (Text.like .folded · schema)) &&
    !f.excluded.any (Text.like .folded · schema)

end Filter

end CatalogFinder
