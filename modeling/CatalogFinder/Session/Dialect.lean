/-!
# Dialects

The dialects of SQL differ in how a reading statement asks to see uncommitted rows.
-/

namespace CatalogFinder

inductive Dialect where
  | db2
  | sqlite
  deriving DecidableEq, Repr

namespace Dialect

def name : Dialect → String
  | db2 => "db2"
  | sqlite => "sqlite"

/-- The clause that ends a statement which only reads. -/
def readIsolation? : Dialect → Option String
  | db2 => some "WITH UR"
  | sqlite => none

/-- A statement with its last clause, on a line of its own. -/
def finish (d : Dialect) (sql : String) : String :=
  match d.readIsolation? with
  | some clause => sql ++ "\n" ++ clause
  | none => sql

end Dialect

end CatalogFinder
