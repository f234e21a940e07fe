import CatalogFinder.Session.Dialect

/-!
# Requests and their statements

A `Request` says what is wanted of the catalog: one of the scans that load it, or the matches of a name mask. Its
`statement` is written from front to back, the text with a `?` for each value on one side and the values on the other.
Nothing but their order ties a value to its placeholder.

* `Statement.push`, `Statement.bind` : more text, and one more value;
* `Request.view` : the view of the catalog that the request is about;
* `Request.statement` : the statement of a request, `Query` a request as it is put to a database.
-/

namespace CatalogFinder

/-- A text with placeholders, and the values that are bound to them. -/
structure Statement where
  sql : String
  parameters : List String := []
  deriving DecidableEq, Repr

namespace Statement

def push (s : Statement) (sql : String) : Statement := { s with sql := s.sql ++ sql }

def bind (s : Statement) (value : String) : Statement := { s with parameters := s.parameters ++ [value] }

/-- Adds a condition on the schema to search in, if there is one. -/
def pushScope (s : Statement) (condition : String) : Option String → Statement
  | some schema => (s.push condition).bind schema
  | none => s

end Statement

inductive CatalogView where
  | schemata
  | tables
  | columns
  | routines
  deriving DecidableEq, Repr

def CatalogView.name : CatalogView → String
  | schemata => "schemata"
  | tables => "tables"
  | columns => "columns"
  | routines => "routines"

/-- What is wanted of the catalog. -/
inductive Request where
  /-- Every schema. -/
  | schemata
  /-- Every relation, with the text of the views. -/
  | relations
  /-- Every column. -/
  | columns
  /-- Every overload of a routine. -/
  | routines
  /-- The relations stored under one of the codes whose name matches, or with `definitions` whose text does. -/
  | matchingRelations (scope : Option String) (mask : String) (codes : List Char) (definitions : Bool)
  /-- The columns whose name matches. -/
  | matchingColumns (scope : Option String) (mask : String)
  /-- The routines whose name matches, or with `definitions` whose text does. -/
  | matchingRoutines (scope : Option String) (mask : String) (definitions : Bool)
  deriving DecidableEq, Repr

namespace Request

def view : Request → CatalogView
  | schemata => .schemata
  | relations => .tables
  | columns => .columns
  | routines => .routines
  | matchingRelations .. => .tables
  | matchingColumns .. => .columns
  | matchingRoutines .. => .routines

/-- The codes as a list of SQL literals. -/
def codeList (codes : List Char) : String :=
  String.intercalate ", " (codes.map fun c => String.ofList ['\'', c, '\''])

/-- Adds the relations whose view text matches to those before. -/
def pushDefinitions (scope : Option String) (mask : String) (codes : List Char) (s : Statement) : Statement :=
  let s := s.push ("\nUNION\nSELECT t.TABSCHEMA, t.TABNAME, t.TYPE\nFROM SYSIBM.SYSVIEWS v\n" ++
    "INNER JOIN SYSCAT.TABLES t ON v.CREATOR = t.TABSCHEMA AND v.NAME = t.TABNAME\n")
  let s := (s.push ("WHERE v.TEXT LIKE ? AND t.TYPE IN (" ++ codeList codes ++ ")")).bind mask
  s.pushScope " AND t.TABSCHEMA = ?" scope

def relationsStatement (scope : Option String) (mask : String) (codes : List Char) (definitions : Bool) : Statement :=
  let s : Statement := { sql := "SELECT TABSCHEMA, TABNAME, TYPE\nFROM SYSCAT.TABLES\nWHERE " }
  let s := s.pushScope "TABSCHEMA = ? AND " scope
  let s := (s.push ("TABNAME LIKE ? AND TYPE IN (" ++ codeList codes ++ ")")).bind mask
  let s := if definitions then pushDefinitions scope mask codes s else s
  s.push "\nORDER BY 1, 2"

def columnsStatement (scope : Option String) (mask : String) : Statement :=
  let s : Statement := { sql := "SELECT TABSCHEMA, TABNAME, COLNAME\nFROM SYSCAT.COLUMNS\nWHERE " }
  let s := s.pushScope "TABSCHEMA = ? AND " scope
  (s.push "COLNAME LIKE ?\nORDER BY TABSCHEMA, TABNAME, COLNO").bind mask

def routinesStatement (scope : Option String) (mask : String) (definitions : Bool) : Statement :=
  let s : Statement := { sql := "SELECT DISTINCT ROUTINESCHEMA, ROUTINENAME\nFROM SYSCAT.ROUTINES\nWHERE " }
  let s := s.pushScope "ROUTINESCHEMA = ? AND " scope
  let s :=
    if definitions then (s.push "(TEXT LIKE ? OR ROUTINENAME LIKE ?)").bind mask
    else s.push "ROUTINENAME LIKE ?"
  (s.bind mask).push "\nORDER BY ROUTINESCHEMA, ROUTINENAME"

/-- The statement that asks for what is wanted. -/
def statement : Request → Statement
  | schemata => { sql := "SELECT SCHEMANAME FROM SYSCAT.SCHEMATA ORDER BY SCHEMANAME" }
  | relations =>
    { sql := "SELECT t.TABSCHEMA, t.TABNAME, t.TYPE, v.TEXT\nFROM SYSCAT.TABLES t\n" ++
        "LEFT OUTER JOIN SYSIBM.SYSVIEWS v ON v.CREATOR = t.TABSCHEMA AND v.NAME = t.TABNAME\n" ++
        "ORDER BY t.TABSCHEMA, t.TABNAME" }
  | columns =>
    { sql := "SELECT TABSCHEMA, TABNAME, COLNAME, COLNO, TYPENAME, NULLS\nFROM SYSCAT.COLUMNS\n" ++
        "ORDER BY TABSCHEMA, TABNAME, COLNO" }
  | routines =>
    { sql := "SELECT ROUTINESCHEMA, ROUTINENAME, SPECIFICNAME, TEXT\nFROM SYSCAT.ROUTINES\n" ++
        "ORDER BY ROUTINESCHEMA, ROUTINENAME, SPECIFICNAME" }
  | matchingRelations scope mask codes definitions => relationsStatement scope mask codes definitions
  | matchingColumns scope mask => columnsStatement scope mask
  | matchingRoutines scope mask definitions => routinesStatement scope mask definitions

end Request

/-- A request in a dialect, with the number of rows to fetch in one go. -/
structure Query where
  request : Request
  dialect : Dialect
  fetchSize : UInt32
  deriving DecidableEq, Repr

namespace Query

/-- The text sent to the database. -/
def sql (q : Query) : String := q.dialect.finish q.request.statement.sql

/-- The values bound to the placeholders. -/
def parameters (q : Query) : List String := q.request.statement.parameters

end Query

end CatalogFinder
