import CatalogFinder.Catalog.Object
import CatalogFinder.Json.Parser
import CatalogFinder.Json.Printer
import CatalogFinder.Json.Record

/-!
# The catalog in JSON

The form in which a cache is stored and objects are shown. For every type there is a writer `toJson` and a reader
`ofJson?`, which takes what the writer gives and the other spellings of `Json.Record`.
-/

namespace CatalogFinder

open Json (Rules)

namespace Category

def toJson (c : Category) : Json := .string c.key

def ofJson? (rules : Rules) (j : Json) : Option Category := do
  let (name, payload) ← j.variant?
  guard (Json.noPayload rules payload)
  ofKey? name

end Category

namespace ObjectType

/-- The type as its word, or as a category under that word. -/
def toJson (t : ObjectType) : Json :=
  match t with
  | category c => .object [("category", c.toJson)]
  | t => .string (((others.find? (·.2 == t)).map (·.1)).getD "")

def ofJson? (rules : Rules) (j : Json) : Option ObjectType := do
  let (name, payload) ← j.variant?
  if name = "category" then
    return .category (← Category.ofJson? rules (← payload))
  else
    guard (Json.noPayload rules payload)
    others.lookup name

end ObjectType

namespace Column

def toJson (c : Column) : Json :=
  .object [("name", .string c.name), ("ordinal", .integer c.ordinal.toNat), ("data_type", .string c.dataType),
    ("nullable", .boolean c.nullable)]

def ofJson? (rules : Rules) (j : Json) : Option Column := do
  let f ← Json.fields? rules ["name", "ordinal", "data_type", "nullable"] j
  return {
    name := ← f.required "name" Json.string?
    ordinal := ← f.required "ordinal" Json.uint32?
    dataType := ← f.required "data_type" Json.string?
    nullable := ← f.required "nullable" Json.boolean? }

end Column

namespace Relation

def toJson (r : Relation) : Json :=
  .object [("name", .string r.name), ("category", r.category.toJson), ("type_code", .string r.typeCode.toString),
    ("columns", .array (r.columns.map Column.toJson)), ("definition", .ofString? r.definition)]

def ofJson? (rules : Rules) (j : Json) : Option Relation := do
  let f ← Json.fields? rules ["name", "category", "type_code", "columns", "definition"] j
  return {
    name := ← f.required "name" Json.string?
    category := ← f.required "category" (Category.ofJson? rules)
    typeCode := ← f.required "type_code" Json.char?
    columns := ← f.defaulted "columns" (Json.list? (Column.ofJson? rules)) []
    definition := ← f.defaulted "definition" (Json.nullable? Json.string?) none }

end Relation

namespace Routine

def toJson (r : Routine) : Json :=
  .object [("name", .string r.name), ("specific_names", .strings r.specificNames), ("text", .ofString? r.text)]

def ofJson? (rules : Rules) (j : Json) : Option Routine := do
  let f ← Json.fields? rules ["name", "specific_names", "text"] j
  return {
    name := ← f.required "name" Json.string?
    specificNames := ← f.defaulted "specific_names" (Json.list? Json.string?) []
    text := ← f.defaulted "text" (Json.nullable? Json.string?) none }

end Routine

namespace Schema

def toJson (s : Schema) : Json :=
  .object [("name", .string s.name), ("relations", .ofNameMap Relation.toJson s.relations),
    ("routines", .ofNameMap Routine.toJson s.routines)]

def ofJson? (rules : Rules) (j : Json) : Option Schema := do
  let f ← Json.fields? rules ["name", "relations", "routines"] j
  return {
    name := ← f.required "name" Json.string?
    relations := ← f.required "relations" (Json.nameMap? (Relation.ofJson? rules))
    routines := ← f.required "routines" (Json.nameMap? (Routine.ofJson? rules)) }

end Schema

namespace Cache

def toJson (c : Cache) : Json := .object [("schemas", .ofNameMap Schema.toJson c.schemas)]

def ofJson? (rules : Rules) (j : Json) : Option Cache := do
  let f ← Json.fields? rules ["schemas"] j
  return { schemas := ← f.required "schemas" (Json.nameMap? (Schema.ofJson? rules)) }

/-- The text that a cache is stored as. -/
def encode (c : Cache) : String := c.toJson.compact

/-- The cache that a text stores. -/
def decode? (text : String) : Option Cache := (Json.parse? text).bind (ofJson? .plain)

end Cache

namespace CatalogObject

/-- The object as a tagged record. -/
def toJson : CatalogObject → Json
  | relation schema r =>
    .object [("kind", .string "relation"), ("schema", .string schema), ("relation", r.toJson)]
  | column schema owner c =>
    .object [("kind", .string "column"), ("schema", .string schema), ("owner", .string owner), ("column", c.toJson)]
  | routine schema r =>
    .object [("kind", .string "routine"), ("schema", .string schema), ("routine", r.toJson)]

def ofJson? (j : Json) : Option CatalogObject := do
  let (kind, record) ← Json.tagged? 0 j
  let rules := Rules.tagged
  match kind with
  | "relation" =>
    let f ← Json.fields? rules ["schema", "relation"] record
    return .relation (← f.required "schema" Json.string?) (← f.required "relation" (Relation.ofJson? rules))
  | "column" =>
    let f ← Json.fields? rules ["schema", "owner", "column"] record
    return .column (← f.required "schema" Json.string?) (← f.required "owner" Json.string?)
      (← f.required "column" (Column.ofJson? rules))
  | "routine" =>
    let f ← Json.fields? rules ["schema", "routine"] record
    return .routine (← f.required "schema" Json.string?) (← f.required "routine" (Routine.ofJson? rules))
  | _ => none

end CatalogObject

end CatalogFinder
