import CatalogFinder.Tables.Layout
import CatalogFinder.Tables.Literal

/-!
# The tables of a hosted catalog

A catalog can be hosted by a plain database: four tables of `SYSCAT` and one of `SYSIBM`, any of which may be missing.
A `Change` runs statements on them one by one; what an earlier statement did stays when a later one fails.

* `SchemaEntry`, `RelationEntry`, `ColumnEntry`, `RoutineEntry`, `ViewEntry` : the entries of the tables;
* `Tables.addSchema`, `addRelation`, `addView`, `addColumn`, `addRoutine` : how a catalog is filled;
* `Tables.insert`, `delete`, `drop` : single statements on a table of a given name.
-/

namespace CatalogFinder

/-- An entry of `SYSCAT.SCHEMATA`. -/
structure SchemaEntry where
  name : Value
  owner : Value := .null
  deriving DecidableEq, Repr

/-- An entry of `SYSCAT.TABLES`. -/
structure RelationEntry where
  schema : Value
  name : Value
  code : Value
  deriving DecidableEq, Repr

/-- An entry of `SYSCAT.COLUMNS`. -/
structure ColumnEntry where
  schema : Value
  owner : Value
  name : Value
  ordinal : Value
  dataType : Value
  nulls : Value
  deriving DecidableEq, Repr

/-- An entry of `SYSCAT.ROUTINES`. -/
structure RoutineEntry where
  schema : Value
  name : Value
  specificName : Value
  text : Value
  deriving DecidableEq, Repr

/-- An entry of `SYSIBM.SYSVIEWS`. -/
structure ViewEntry where
  schema : Value
  name : Value
  text : Value
  deriving DecidableEq, Repr

/-! ## Layouts -/

def SchemaEntry.layout : Layout SchemaEntry where
  name := "SYSCAT.SCHEMATA"
  columns := [{ name := "SCHEMANAME" }, { name := "OWNER", nullable := true }]
  key e := [e.name]
  cell e
    | "SCHEMANAME" => e.name
    | "OWNER" => e.owner
    | _ => .null
  build v := ⟨v "SCHEMANAME", v "OWNER"⟩

def RelationEntry.layout : Layout RelationEntry where
  name := "SYSCAT.TABLES"
  columns := [{ name := "TABSCHEMA" }, { name := "TABNAME" }, { name := "TYPE" }]
  key e := [e.schema, e.name]
  cell e
    | "TABSCHEMA" => e.schema
    | "TABNAME" => e.name
    | "TYPE" => e.code
    | _ => .null
  build v := ⟨v "TABSCHEMA", v "TABNAME", v "TYPE"⟩

def ColumnEntry.layout : Layout ColumnEntry where
  name := "SYSCAT.COLUMNS"
  columns := [{ name := "TABSCHEMA" }, { name := "TABNAME" }, { name := "COLNAME" },
    { name := "COLNO", affinity := .integer }, { name := "TYPENAME" }, { name := "NULLS", default := .text "Y" }]
  key e := [e.schema, e.owner, e.name]
  cell e
    | "TABSCHEMA" => e.schema
    | "TABNAME" => e.owner
    | "COLNAME" => e.name
    | "COLNO" => e.ordinal
    | "TYPENAME" => e.dataType
    | "NULLS" => e.nulls
    | _ => .null
  build v := ⟨v "TABSCHEMA", v "TABNAME", v "COLNAME", v "COLNO", v "TYPENAME", v "NULLS"⟩

def RoutineEntry.layout : Layout RoutineEntry where
  name := "SYSCAT.ROUTINES"
  columns := [{ name := "ROUTINESCHEMA" }, { name := "ROUTINENAME" }, { name := "SPECIFICNAME" },
    { name := "TEXT", nullable := true }]
  key e := [e.schema, e.specificName]
  cell e
    | "ROUTINESCHEMA" => e.schema
    | "ROUTINENAME" => e.name
    | "SPECIFICNAME" => e.specificName
    | "TEXT" => e.text
    | _ => .null
  build v := ⟨v "ROUTINESCHEMA", v "ROUTINENAME", v "SPECIFICNAME", v "TEXT"⟩

def ViewEntry.layout : Layout ViewEntry where
  name := "SYSIBM.SYSVIEWS"
  columns := [{ name := "CREATOR" }, { name := "NAME" }, { name := "TEXT", nullable := true }]
  key e := [e.schema, e.name]
  cell e
    | "CREATOR" => e.schema
    | "NAME" => e.name
    | "TEXT" => e.text
    | _ => .null
  build v := ⟨v "CREATOR", v "NAME", v "TEXT"⟩

/-! ## All tables -/

/-- The tables of a catalog; one that is missing has no list of entries. -/
structure Tables where
  schemata : Option (List SchemaEntry) := some []
  relations : Option (List RelationEntry) := some []
  columns : Option (List ColumnEntry) := some []
  routines : Option (List RoutineEntry) := some []
  views : Option (List ViewEntry) := some []
  deriving DecidableEq, Repr

namespace Tables

def empty : Tables := {}

/-- No table at all. -/
def absent : Tables := ⟨none, none, none, none, none⟩

/-- The tables with those that are missing made anew. -/
def completed (t : Tables) : Tables :=
  ⟨some (t.schemata.getD []), some (t.relations.getD []), some (t.columns.getD []), some (t.routines.getD []),
    some (t.views.getD [])⟩

/-- Statements on the tables, up to the first one that is refused. -/
abbrev Change (α : Type) := ExceptT DatabaseError (StateM Tables) α

/-- One of the tables. -/
structure Part (ε : Type) where
  layout : Layout ε
  entries? : Tables → Option (List ε)
  replace : Tables → Option (List ε) → Tables

def schemataPart : Part SchemaEntry := ⟨SchemaEntry.layout, (·.schemata), fun t l => { t with schemata := l }⟩

def relationsPart : Part RelationEntry := ⟨RelationEntry.layout, (·.relations), fun t l => { t with relations := l }⟩

def columnsPart : Part ColumnEntry := ⟨ColumnEntry.layout, (·.columns), fun t l => { t with columns := l }⟩

def routinesPart : Part RoutineEntry := ⟨RoutineEntry.layout, (·.routines), fun t l => { t with routines := l }⟩

def viewsPart : Part ViewEntry := ⟨ViewEntry.layout, (·.views), fun t l => { t with views := l }⟩

/-- The entries of a table that has to be there. -/
def Part.entries {ε : Type} (p : Part ε) (t : Tables) : Except DatabaseError (List ε) :=
  match p.entries? t with
  | some entries => .ok entries
  | none => .error (.noSuchTable p.layout.name)

/-- A statement that changes the entries of a table. -/
def Part.change {ε : Type} (p : Part ε) (f : List ε → Except DatabaseError (List ε)) : Change Unit :=
  ExceptT.mk fun t =>
    match p.entries t >>= f with
    | .ok entries => (.ok (), p.replace t (some entries))
    | .error e => (.error e, t)

/-! ## Filling a catalog -/

/-- Adds a schema, unless there is one of its name. -/
def addSchema (schema : String) : Change Unit :=
  schemataPart.change fun entries => .ok (SchemaEntry.layout.keep { name := .text schema } entries)

/-- Adds a relation and its schema. -/
def addRelation (schema name : String) (code : Char) : Change Unit := do
  addSchema schema
  relationsPart.change fun entries =>
    .ok (RelationEntry.layout.upsert ⟨.text schema, .text name, .text code.toString⟩ entries)

/-- Adds a view with its text. -/
def addView (schema name text : String) : Change Unit := do
  addRelation schema name 'V'
  viewsPart.change fun entries => .ok (ViewEntry.layout.upsert ⟨.text schema, .text name, .text text⟩ entries)

/-- Adds a column. Its owner need not be there. -/
def addColumn (schema owner : String) (name : String) (ordinal : UInt32) (dataType : String) (nullable : Bool) :
    Change Unit :=
  columnsPart.change fun entries =>
    .ok (ColumnEntry.layout.upsert ⟨.text schema, .text owner, .text name, .integer ordinal.toNat, .text dataType,
      .text (if nullable then "Y" else "N")⟩ entries)

/-- Adds an overload of a routine and its schema. -/
def addRoutine (schema name specificName : String) (text : Option String) : Change Unit := do
  addSchema schema
  routinesPart.change fun entries =>
    .ok (RoutineEntry.layout.upsert
      ⟨.text schema, .text name, .text specificName, (text.map Value.text).getD .null⟩ entries)

/-! ## Single statements -/

/-- Acts on the table of a name. -/
def onTable (table : String) (act : {ε : Type} → Part ε → Change Unit) : Change Unit :=
  if Row.sameName table schemataPart.layout.name then act schemataPart
  else if Row.sameName table relationsPart.layout.name then act relationsPart
  else if Row.sameName table columnsPart.layout.name then act columnsPart
  else if Row.sameName table routinesPart.layout.name then act routinesPart
  else if Row.sameName table viewsPart.layout.name then act viewsPart
  else throw (.noSuchTable table)

/-- Inserts an entry of the given values. -/
def insert (table : String) (given : List (String × Literal)) : Change Unit :=
  onTable table fun p => p.change fun entries => do
    let values ← given.mapM fun (column, literal) => return (column, ← literal.value?)
    p.layout.add (← p.layout.entryOf values) entries

/-- Deletes the entries with a value in a column. -/
def delete (table column : String) (wanted : Literal) : Change Unit :=
  onTable table fun p => p.change fun entries => do p.layout.remove column (← wanted.value?) entries

def drop (table : String) : Change Unit :=
  onTable table fun p => do
    p.change .ok
    modify fun t => p.replace t none

end Tables

end CatalogFinder
