import CatalogFinder.Files.Basic
import CatalogFinder.Json.Parser
import CatalogFinder.Json.Printer
import CatalogFinder.Json.Record

/-!
# The text of a database file

A database file is kept as a JSON text: the rows of each table, as values in the order of the table's columns, and the
entries of the snapshot store. A text without the mark of the format is no database.

* `Database.encode` : the text of a database;
* `Database.decode?` : the database of a text.
-/

namespace CatalogFinder

namespace Value

/-- A value in JSON: numbers and texts as they are, the other kinds under their names. -/
def toJson : Value → Json
  | null => .null
  | integer i => .integer i
  | text s => .string s
  | real (.finite negative mantissa exponent) =>
    .object [("real", .array [.boolean negative, .integer mantissa, .integer exponent])]
  | real (.infinite negative) => .object [("real", .array [.boolean negative])]
  | blob bytes => .object [("bytes", .array (bytes.map fun b => .integer b.toNat))]

def ofJson? : Json → Option Value
  | .null => some null
  | .integer i => some (integer i)
  | .string s => some (text s)
  | .object [("real", .array [.boolean negative, .integer mantissa, .integer exponent])] =>
    if 0 ≤ mantissa then some (real (.finite negative mantissa.toNat exponent)) else none
  | .object [("real", .array [.boolean negative])] => some (real (.infinite negative))
  | .object [("bytes", .array items)] => (items.mapM (Json.natBelow? 256)).map fun ns => blob (ns.map UInt8.ofNat)
  | _ => none

end Value

namespace Layout

variable {ε : Type}

def rowOf (l : Layout ε) (e : ε) : List Value := l.columns.map fun c => l.cell e c.name

/-- The entry with these values in the order of the columns. -/
def ofRow? (l : Layout ε) (values : List Value) : Option ε :=
  if values.length = l.columns.length then
    some (l.build fun name => (((l.columns.map (·.name)).zip values).lookup name).getD .null)
  else none

end Layout

namespace Tables

variable {ε : Type}

/-- The rows of a table, or null if it is missing. -/
def Part.toJson (p : Part ε) (t : Tables) : Json :=
  match p.entries? t with
  | some entries => .array (entries.map fun e => .array ((p.layout.rowOf e).map Value.toJson))
  | none => .null

/-- The tables with the rows of one. -/
def Part.withJson? (p : Part ε) (t : Tables) (j : Json) : Option Tables := do
  let rows ← Json.nullable? (Json.list? fun row => (row.list? Value.ofJson?).bind p.layout.ofRow?) j
  return p.replace t rows

end Tables

namespace Database

/-- The mark of the format. -/
def format : String := "catalog database 1"

def storeToJson (s : SnapshotStore) : Json :=
  .object [("version", .ofString? s.version), ("entries", .ofNameMap .string s.entries)]

def storeOfJson? (j : Json) : Option SnapshotStore := do
  let f ← Json.fields? .plain ["version", "entries"] j
  return {
    version := ← f.required "version" (Json.nullable? Json.string?)
    entries := ← f.required "entries" (Json.nameMap? Json.string?) }

def encode (d : Database) : String :=
  (Json.object [("format", .string format), ("schemata", Tables.schemataPart.toJson d.tables),
    ("relations", Tables.relationsPart.toJson d.tables), ("columns", Tables.columnsPart.toJson d.tables),
    ("routines", Tables.routinesPart.toJson d.tables), ("views", Tables.viewsPart.toJson d.tables),
    ("snapshots", (d.snapshots.map storeToJson).getD .null)]).compact

def decode? (text : String) : Option Database := do
  let j ← Json.parse? text
  let f ← Json.fields? .plain ["format", "schemata", "relations", "columns", "routines", "views", "snapshots"] j
  guard ((← f.required "format" Json.string?) = format)
  let t ← f.required "schemata" (Tables.schemataPart.withJson? .absent)
  let t ← f.required "relations" (Tables.relationsPart.withJson? t)
  let t ← f.required "columns" (Tables.columnsPart.withJson? t)
  let t ← f.required "routines" (Tables.routinesPart.withJson? t)
  let t ← f.required "views" (Tables.viewsPart.withJson? t)
  return ⟨t, ← f.required "snapshots" (Json.nullable? storeOfJson?)⟩

end Database

end CatalogFinder
