import CatalogFinder.Catalog.Json
import CatalogFinder.Search.Params
import CatalogFinder.Search.Reference

/-!
# Searches in JSON

The forms of search parameters and references, each with a writer `toJson` and a reader `ofJson?`.
-/

namespace CatalogFinder

open Json (Rules)

namespace Params

def toJson (p : Params) : Json :=
  .object [("mask", .string p.mask), ("case_sensitive", .boolean p.caseSensitive),
    ("object_types", .array (p.objectTypes.map ObjectType.toJson)), ("scope", .ofString? p.scope),
    ("global_search", .boolean p.globalSearch), ("search_in_definitions", .boolean p.inDefinitions),
    ("max_results", .integer p.maxResults.toNat)]

def ofJson? (rules : Rules) (j : Json) : Option Params := do
  let f ← Json.fields? rules
    ["mask", "case_sensitive", "object_types", "scope", "global_search", "search_in_definitions", "max_results"] j
  return {
    mask := ← f.required "mask" Json.string?
    caseSensitive := ← f.required "case_sensitive" Json.boolean?
    objectTypes := ← f.required "object_types" (Json.list? (ObjectType.ofJson? rules))
    scope := ← f.optional "scope" Json.string?
    globalSearch := ← f.required "global_search" Json.boolean?
    inDefinitions := ← f.required "search_in_definitions" Json.boolean?
    maxResults := ← f.required "max_results" Json.uint64? }

end Params

namespace Container

def toJson : Container → Json
  | schema s => .object [("kind", .string "schema"), ("schema", .string s)]
  | table s t => .object [("kind", .string "table"), ("schema", .string s), ("table", .string t)]
  | view s v => .object [("kind", .string "view"), ("schema", .string s), ("view", .string v)]

/-- The container that a tagged record holds, which stands so deep in its text. -/
def ofJson? (outer : Nat) (j : Json) : Option Container := do
  let (kind, record) ← Json.tagged? outer j
  let rules := Rules.tagged
  match kind with
  | "schema" =>
    let f ← Json.fields? rules ["schema"] record
    return .schema (← f.required "schema" Json.string?)
  | "table" =>
    let f ← Json.fields? rules ["schema", "table"] record
    return .table (← f.required "schema" Json.string?) (← f.required "table" Json.string?)
  | "view" =>
    let f ← Json.fields? rules ["schema", "view"] record
    return .view (← f.required "schema" Json.string?) (← f.required "view" Json.string?)
  | _ => none

end Container

namespace Reference

def toJson (r : Reference) : Json :=
  .object [("name", .string r.name), ("container", r.container.toJson), ("category", r.category.toJson)]

def ofJson? (rules : Rules) (j : Json) : Option Reference := do
  let f ← Json.fields? rules ["name", "container", "category"] j
  return {
    name := ← f.required "name" Json.string?
    container := ← f.required "container" (Container.ofJson? 1)
    category := ← f.required "category" (Category.ofJson? rules) }

end Reference

end CatalogFinder
