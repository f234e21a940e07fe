import CatalogFinder.Session.Row
import CatalogFinder.Tables.Value

/-!
# Keyed tables

A table is a list of entries, no two of one key. A `Layout` says how the entries of a table are made of columns, and
how statements change the list: `entryOf` makes an entry of given values, `add` refuses a key that is there, `keep`
leaves the entry of that key alone, `upsert` puts the new entry in its place, and `remove` drops entries by a column.
-/

namespace CatalogFinder

structure ColumnSpec where
  name : String
  affinity : Affinity := .text
  nullable : Bool := false
  /-- The value of a column that is given none. -/
  default : Value := .null

/-- How the entries of a table are made. -/
structure Layout (ε : Type) where
  name : String
  columns : List ColumnSpec
  /-- The values of the primary key. -/
  key : ε → List Value
  /-- The value in a column. -/
  cell : ε → String → Value
  /-- The entry with these values in its columns. -/
  build : (String → Value) → ε

namespace Layout

variable {ε : Type}

/-- The column of a name, whatever its case. -/
def column? (l : Layout ε) (name : String) : Option ColumnSpec := l.columns.find? (Row.sameName ·.name name)

/-- What a column gets of the given values. -/
def valueOf (given : List (String × Value)) (c : ColumnSpec) : Value :=
  match given.find? (Row.sameName ·.1 c.name) with
  | some (_, v) => c.affinity.fit v
  | none => c.default

/-- The entry of the given values, the other columns at their defaults. -/
def entryOf (l : Layout ε) (given : List (String × Value)) : Except DatabaseError ε :=
  match given.find? fun g => (l.column? g.1).isNone with
  | some (name, _) => .error (.noSuchColumn l.name name)
  | none =>
    match l.columns.find? fun c => !c.nullable && valueOf given c = .null with
    | some c => .error (.nullNotAllowed l.name c.name)
    | none => .ok (l.build fun name => ((l.column? name).map (valueOf given)).getD .null)

/-- The entries with a new one at the end, if its key is new. -/
def add (l : Layout ε) (e : ε) (entries : List ε) : Except DatabaseError (List ε) :=
  if entries.any (l.key · = l.key e) then .error (.notUnique l.name) else .ok (entries ++ [e])

/-- The entries with one of this key: the one that is there, or else the new one. -/
def keep (l : Layout ε) (e : ε) (entries : List ε) : List ε :=
  if entries.any (l.key · = l.key e) then entries else entries ++ [e]

/-- The entries with the new one instead of any of its key. -/
def upsert (l : Layout ε) (e : ε) (entries : List ε) : List ε :=
  entries.filter (l.key · ≠ l.key e) ++ [e]

/-- The entries that do not hold the value in the column. NULL is equal to nothing. -/
def remove (l : Layout ε) (column : String) (value : Value) (entries : List ε) : Except DatabaseError (List ε) :=
  match l.column? column with
  | none => .error (.noSuchColumn l.name column)
  | some c =>
    let wanted := c.affinity.fit value
    .ok (entries.filter fun e => wanted = .null || (l.cell e c.name).cmp wanted ≠ .eq)

end Layout

end CatalogFinder
