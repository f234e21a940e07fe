import CatalogFinder.Session.Error
import CatalogFinder.Text.Blank

/-!
# Rows

A row of a result: the names of its columns and a text or NULL for each. Column names are told apart without regard to
the case of ASCII letters; of two columns of one name the first counts, and a value that is not there is NULL.
-/

namespace CatalogFinder

structure Row where
  columns : List String
  values : List (Option String)
  deriving DecidableEq, Repr

namespace Row

/-- The names are equal but for the case of ASCII letters. -/
def sameName (a b : String) : Bool := a.toList.map Char.toLower == b.toList.map Char.toLower

/-- What a column holds: nothing if the row has no such column, else a text or NULL. -/
def cell? (row : Row) (column : String) : Option (Option String) :=
  (row.columns.findIdx? (sameName · column)).map fun i => (row.values[i]?).join

def has (row : Row) (column : String) : Bool := (row.cell? column).isSome

/-- The text in a column, if there is one. -/
def get? (row : Row) (column : String) : Option String := (row.cell? column).join

/-- The text in a column that has to hold one. -/
def require (row : Row) (column : String) : Except SessionError String :=
  match row.cell? column with
  | none => .error (.missingColumn column)
  | some none => .error (.nullValue column)
  | some (some text) => .ok text

/-- The text in a column that has to hold one, without the blanks that pad it. -/
def requireTrimmed (row : Row) (column : String) : Except SessionError String :=
  (row.require column).map Text.trimEnd

end Row

end CatalogFinder
