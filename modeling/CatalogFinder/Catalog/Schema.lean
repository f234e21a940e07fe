import CatalogFinder.Catalog.Category
import CatalogFinder.NameMap

/-!
# The cached catalog

What is kept of a catalog between searches: its schemas, each with its relations and routines by name. Look-ups go by
the names in the maps; what is stored under a name carries a name of its own.

* `Relation`, `Routine` : what a schema holds; the overloads of a routine share one entry;
* `Schema.addRelation`, `Schema.addRoutine`, `Schema.addColumn` : how a schema grows;
* `Schema.table?`, `Schema.view?` : relations that own columns;
* `Cache` : schemas by name.
-/

namespace CatalogFinder

structure Column where
  name : String
  /-- The position in the relation, from zero. -/
  ordinal : UInt32
  dataType : String
  nullable : Bool
  deriving DecidableEq, Repr

/-- A table, view, alias, materialized view or nickname. -/
structure Relation where
  name : String
  category : Category
  /-- The code it is stored under. -/
  typeCode : Char
  columns : List Column := []
  /-- The text of a view, if the catalog has one. -/
  definition : Option String := none
  deriving DecidableEq, Repr

/-- The first column of a name. -/
def Relation.column? (r : Relation) (name : String) : Option Column := r.columns.find? (·.name == name)

/-- A routine with its overloads. -/
structure Routine where
  name : String
  /-- One name for each overload. -/
  specificNames : List String := []
  text : Option String := none
  deriving DecidableEq, Repr

/-- Adds an overload. The first text there is stays. -/
def Routine.addOverload (r : Routine) (specificName : String) (text : Option String) : Routine :=
  { r with specificNames := r.specificNames ++ [specificName], text := r.text <|> text }

/-- A schema with its relations and routines. -/
structure Schema where
  name : String
  relations : NameMap Relation := ∅
  routines : NameMap Routine := ∅
  deriving DecidableEq

namespace Schema

/-- Adds a relation under its name, instead of one of the same name. -/
def addRelation (s : Schema) (r : Relation) : Schema :=
  { s with relations := s.relations.insert r.name r }

/-- Adds an overload to the routine of a name, which is made if there is none. -/
def addRoutine (s : Schema) (name specificName : String) (text : Option String) : Schema :=
  let routine := (s.routines.get? name).getD { name := name }
  { s with routines := s.routines.insert name (routine.addOverload specificName text) }

/-- Adds a column at the end of a relation, if the relation is there. -/
def addColumn (s : Schema) (relation : String) (column : Column) : Schema :=
  { s with relations := s.relations.modify relation fun r => { r with columns := r.columns ++ [column] } }

def relation? (s : Schema) (name : String) : Option Relation := s.relations.get? name

def routine? (s : Schema) (name : String) : Option Routine := s.routines.get? name

/-- The relation of a name that stores rows: a table or a materialized view. -/
def table? (s : Schema) (name : String) : Option Relation :=
  (s.relation? name).filter fun r => r.category = .table || r.category = .materializedView

def view? (s : Schema) (name : String) : Option Relation :=
  (s.relation? name).filter fun r => r.category = .view

def objectCount (s : Schema) : Nat := s.relations.size + s.routines.size

end Schema

/-- The schemas of a catalog by name. -/
structure Cache where
  schemas : NameMap Schema := ∅
  deriving DecidableEq

namespace Cache

def empty : Cache := {}

def schema? (c : Cache) (name : String) : Option Schema := c.schemas.get? name

/-- Keeps a schema under its name, instead of one of the same name. -/
def insert (c : Cache) (s : Schema) : Cache := ⟨c.schemas.insert s.name s⟩

def schemaNames (c : Cache) : List String := c.schemas.names

def size (c : Cache) : Nat := c.schemas.size

def objectCount (c : Cache) : Nat := c.schemas.values.foldr (fun s count => s.objectCount + count) 0

end Cache

end CatalogFinder
