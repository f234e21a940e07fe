import CatalogFinder.Catalog.Filter
import CatalogFinder.Catalog.Schema
import CatalogFinder.Catalog.TypeCode
import CatalogFinder.Session.Basic
import CatalogFinder.Text.Digits

/-!
# Loading the cache

A catalog is loaded by four scans: schemas, relations, columns, routines. Each row changes the schemas found so far.
A row of a schema that is not kept changes nothing, and only its schema is read, of a column its owner too; a row that
lacks what is read of it ends the load.

* `addSchema`, `addRelation`, `addColumn`, `addRoutine` : what one row of each scan does;
* `load` : the cache, the queries put to the session and the number of rows fetched.
-/

namespace CatalogFinder

/-- Why a catalog cannot be loaded. -/
structure LoadError where
  cause : SessionError
  deriving DecidableEq, Repr

def LoadError.message (e : LoadError) : String := s!"catalog query failed: {e.cause.message}"

namespace Load

/-- What a row does to the schemas found so far. -/
abbrev RowStep := NameMap Schema → Row → Except SessionError (NameMap Schema)

/-- Keeps a schema that the filter accepts. -/
def addSchema (filter : Filter) : RowStep := fun schemas row => do
  let name ← row.requireTrimmed "SCHEMANAME"
  return if filter.accepts name then schemas.insert name { name := name } else schemas

/-- Adds a relation to its schema, unless its code is unknown. -/
def addRelation : RowStep := fun schemas row => do
  let schema ← row.requireTrimmed "TABSCHEMA"
  match schemas.get? schema with
  | none => return schemas
  | some kept =>
    let name ← row.require "TABNAME"
    let code ← row.require "TYPE"
    match TypeCodes.standard.categoryFor? code, (Text.trim code).toList with
    | some category, typeCode :: _ =>
      return schemas.insert schema
        (kept.addRelation { name := name, category := category, typeCode := typeCode, definition := row.get? "TEXT" })
    | _, _ => return schemas

def ordinalOf (text : String) : Except SessionError UInt32 :=
  match Text.unsigned? text with
  | some n => if n < UInt32.size then .ok (UInt32.ofNat n) else .error (.invalidValue "COLNO" text)
  | none => .error (.invalidValue "COLNO" text)

/-- Adds a column to its relation. -/
def addColumn : RowStep := fun schemas row => do
  let schema ← row.requireTrimmed "TABSCHEMA"
  let owner ← row.require "TABNAME"
  match (schemas.get? schema).bind (·.relation? owner) with
  | none => return schemas
  | some _ =>
    let ordinal ← ordinalOf (← row.require "COLNO")
    let name ← row.require "COLNAME"
    let dataType ← row.requireTrimmed "TYPENAME"
    -- a column can hold NULL unless the row says otherwise
    let nullable := match row.get? "NULLS" with
      | some text => Text.trim text == "Y"
      | none => true
    return schemas.modify schema (·.addColumn owner ⟨name, ordinal, dataType, nullable⟩)

/-- Adds an overload to a routine of its schema. -/
def addRoutine : RowStep := fun schemas row => do
  let schema ← row.requireTrimmed "ROUTINESCHEMA"
  match schemas.get? schema with
  | none => return schemas
  | some _ =>
    let name ← row.require "ROUTINENAME"
    let specificName ← row.require "SPECIFICNAME"
    return schemas.modify schema (·.addRoutine name specificName (row.get? "TEXT"))

/-- Lets the rows of a reply change the schemas one after the other, up to the first error; and the number of rows
fetched for it. -/
def scan (step : RowStep) (failure : Option SessionError) :
    List Row → NameMap Schema → Except SessionError (NameMap Schema) × Nat
  | [], schemas =>
    match failure with
    | some e => (.error e, 0)
    | none => (.ok schemas, 0)
  | row :: rest, schemas =>
    match step schemas row with
    | .error e => (.error e, 1)
    | .ok schemas =>
      let (result, fetched) := scan step failure rest schemas
      (result, fetched + 1)

/-- A load, complete or broken off. -/
structure Loading where
  result : Except SessionError (NameMap Schema)
  executed : List Query
  fetched : Nat

/-- Runs scans one after the other, up to the first error. -/
def runScans (session : Session) (fetchSize : UInt32) : List (Request × RowStep) → NameMap Schema → Loading
  | [], schemas => ⟨.ok schemas, [], 0⟩
  | (request, step) :: rest, schemas =>
    let query := session.query request fetchSize
    let reply := session.reply query
    match scan step reply.failure reply.rows schemas with
    | (.error e, fetched) => ⟨.error e, [query], fetched⟩
    | (.ok schemas, fetched) =>
      let later := runScans session fetchSize rest schemas
      ⟨later.result, query :: later.executed, fetched + later.fetched⟩

/-- The scans of a load. -/
def scans (filter : Filter) : List (Request × RowStep) :=
  [(.schemata, addSchema filter), (.relations, addRelation), (.columns, addColumn), (.routines, addRoutine)]

/-- Loads the schemas that a filter accepts. -/
def run (session : Session) (filter : Filter) (fetchSize : UInt32) : Loading :=
  runScans session fetchSize (scans filter) ∅

end Load

def load (session : Session) (filter : Filter) (fetchSize : UInt32) : Except LoadError Cache :=
  match (Load.run session filter fetchSize).result with
  | .ok schemas => .ok ⟨schemas⟩
  | .error e => .error ⟨e⟩

end CatalogFinder
