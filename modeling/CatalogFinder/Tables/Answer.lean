import CatalogFinder.Session.Basic
import CatalogFinder.Tables.Basic
import CatalogFinder.Tables.Mask

/-!
# What a hosted catalog answers

The meaning of each request on the tables: which entries it selects, in which order, and as rows of which columns.
Names and texts match a mask exactly as it is written, with case. A mask that is too long is refused as soon as a value
has to be compared with it.

* `Tables.innerJoin`, `Tables.outerJoin` : views and relations that belong together;
* `Tables.matchingRelations`, `matchingColumns`, `matchingRoutines` : what a search selects;
* `Tables.answer` : the rows for a request, `Tables.reply` the same as a reply.
-/

namespace CatalogFinder

/-- Puts an entry before the first one that it is not behind in an order. -/
def insertBy {α : Type} (cmp : α → α → Ordering) (a : α) : List α → List α
  | [] => [a]
  | b :: rest => if (cmp a b).isLE then a :: b :: rest else b :: insertBy cmp a rest

/-- The entries in an order; entries that are equal in it stay as they are. -/
def sortedBy {α : Type} (cmp : α → α → Ordering) (l : List α) : List α := l.foldr (insertBy cmp) []

namespace Tables

/-- Refuses a mask that is too long if a value has to be compared with it. -/
def guardMask (mask : String) (compared : Bool) : Except DatabaseError Unit :=
  if Mask.isTooLong mask && compared then .error .patternTooLong else .ok ()

/-- The schema is the one to search in, if there is one. -/
def inScope (scope : Option String) (schema : Value) : Bool :=
  match scope with
  | some s => schema = .text s
  | none => true

def rowOf (columns : List String) (values : List Value) : Row := ⟨columns, values.map Value.text?⟩

/-! ## Orders -/

/-- Relations by schema and name. -/
def cmpRelation (a b : RelationEntry) : Ordering := (a.schema.cmp b.schema).then (a.name.cmp b.name)

/-- Columns by schema, owner and position, then by name. -/
def cmpColumn (a b : ColumnEntry) : Ordering :=
  (a.schema.cmp b.schema).then ((a.owner.cmp b.owner).then ((a.ordinal.cmp b.ordinal).then (a.name.cmp b.name)))

/-- Routines by schema and name, then by specific name. -/
def cmpRoutine (a b : RoutineEntry) : Ordering :=
  (a.schema.cmp b.schema).then ((a.name.cmp b.name).then (a.specificName.cmp b.specificName))

/-! ## Joins -/

/-- The entry of a view is that of the relation. -/
def belongs (v : ViewEntry) (r : RelationEntry) : Bool := v.schema = r.schema && v.name = r.name

/-- Views with the relations that they belong to. -/
def innerJoin (views : List ViewEntry) (relations : List RelationEntry) : List (ViewEntry × RelationEntry) :=
  views.flatMap fun v => (relations.filter (belongs v)).map fun r => (v, r)

/-- Relations with the views that belong to them, or without one if there is none. -/
def outerJoin (relations : List RelationEntry) (views : List ViewEntry) : List (RelationEntry × Option ViewEntry) :=
  relations.flatMap fun r =>
    match views.filter (belongs · r) with
    | [] => [(r, none)]
    | found => found.map fun v => (r, some v)

/-- The entries of two selections, each once. -/
def union {α : Type} [BEq α] (l l' : List α) : List α := (l ++ l').eraseDups

/-! ## Searches -/

/-- The relation is stored under one of the codes. -/
def hasCode (codes : List Char) (r : RelationEntry) : Bool := codes.any fun c => r.code = .text c.toString

/-- The name of the relation has to be compared with the mask. In one schema the names are looked up. -/
def comparesName (scope : Option String) (mask : String) (r : RelationEntry) : Bool :=
  if scope.isSome then inScope scope r.schema && Mask.compares mask r.name else true

/-- The name of the relation matches the mask. In one schema the names are looked up. -/
def selectsName (scope : Option String) (mask : String) (r : RelationEntry) : Bool :=
  if scope.isSome then Mask.selects mask r.name else r.name.isLike mask

/-- The relations in scope stored under one of the codes whose name matches. -/
def namedRelations (relations : List RelationEntry) (scope : Option String) (mask : String) (codes : List Char) :
    List RelationEntry :=
  relations.filter fun r => inScope scope r.schema && selectsName scope mask r && hasCode codes r

/-- The relations in scope stored under one of the codes that a view with a matching text belongs to. -/
def definedRelations (joined : List (ViewEntry × RelationEntry)) (scope : Option String) (mask : String)
    (codes : List Char) : List RelationEntry :=
  (joined.filter fun (v, r) => v.text.isLike mask && hasCode codes r && inScope scope r.schema).map (·.2)

/-- The relations whose name matches and, if their views are given, those whose text does. -/
def matchingRelations (relations : List RelationEntry) (joined? : Option (List (ViewEntry × RelationEntry)))
    (scope : Option String) (mask : String) (codes : List Char) : List RelationEntry :=
  sortedBy cmpRelation <|
    match joined? with
    | some joined => union (namedRelations relations scope mask codes) (definedRelations joined scope mask codes)
    | none => namedRelations relations scope mask codes

/-- The columns in scope whose name matches. -/
def matchingColumns (columns : List ColumnEntry) (scope : Option String) (mask : String) : List ColumnEntry :=
  sortedBy cmpColumn <| columns.filter fun c => inScope scope c.schema && c.name.isLike mask

/-- The schemas and names of the routines in scope whose name, or with `definitions` also whose text, matches; each
once. -/
def matchingRoutines (routines : List RoutineEntry) (scope : Option String) (mask : String) (definitions : Bool) :
    List (Value × Value) :=
  ((sortedBy cmpRoutine <| routines.filter fun r =>
    inScope scope r.schema && (r.name.isLike mask || (definitions && r.text.isLike mask))).map
      fun r => (r.schema, r.name)).eraseDups

/-! ## Requests -/

/-- The rows that a request selects, or why the database refuses it. -/
def answer (t : Tables) : Request → Except DatabaseError (List Row)
  | .schemata => do
    let entries ← schemataPart.entries t
    return (sortedBy (fun a b => a.name.cmp b.name) entries).map fun e => rowOf ["SCHEMANAME"] [e.name]
  | .relations => do
    let relations ← relationsPart.entries t
    let views ← viewsPart.entries t
    return (sortedBy (fun a b => cmpRelation a.1 b.1) (outerJoin relations views)).map fun (r, view?) =>
      rowOf ["TABSCHEMA", "TABNAME", "TYPE", "TEXT"] [r.schema, r.name, r.code, (view?.map (·.text)).getD .null]
  | .columns => do
    let columns ← columnsPart.entries t
    return (sortedBy cmpColumn columns).map fun c =>
      rowOf ["TABSCHEMA", "TABNAME", "COLNAME", "COLNO", "TYPENAME", "NULLS"]
        [c.schema, c.owner, c.name, c.ordinal, c.dataType, c.nulls]
  | .routines => do
    let routines ← routinesPart.entries t
    return (sortedBy cmpRoutine routines).map fun r =>
      rowOf ["ROUTINESCHEMA", "ROUTINENAME", "SPECIFICNAME", "TEXT"] [r.schema, r.name, r.specificName, r.text]
  | .matchingRelations scope mask codes definitions => do
    let relations ← relationsPart.entries t
    let joined? ← if definitions then (viewsPart.entries t).map fun views => some (innerJoin views relations)
      else .ok none
    -- a mask that is too long does no harm until something is compared with it
    guardMask mask (relations.any (comparesName scope mask) ||
      (joined?.getD []).any fun (_, r) => inScope scope r.schema && hasCode codes r)
    return (matchingRelations relations joined? scope mask codes).map fun r =>
      rowOf ["TABSCHEMA", "TABNAME", "TYPE"] [r.schema, r.name, r.code]
  | .matchingColumns scope mask => do
    let columns ← columnsPart.entries t
    guardMask mask (columns.any (inScope scope ·.schema))
    return (matchingColumns columns scope mask).map fun c =>
      rowOf ["TABSCHEMA", "TABNAME", "COLNAME"] [c.schema, c.owner, c.name]
  | .matchingRoutines scope mask definitions => do
    let routines ← routinesPart.entries t
    guardMask mask (routines.any (inScope scope ·.schema))
    return (matchingRoutines routines scope mask definitions).map fun (schema, name) =>
      rowOf ["ROUTINESCHEMA", "ROUTINENAME"] [schema, name]

def reply (t : Tables) (request : Request) : Reply :=
  match t.answer request with
  | .ok rows => ⟨rows, none⟩
  | .error e => ⟨[], some (.database e)⟩

end Tables

end CatalogFinder
