import CatalogFinder.Json.Basic

/-!
# TOML documents

A document is a tree of tables. Where a table or an array comes from decides whether later lines may add to it, so the
tree remembers it: a table named on the way to another one may still be declared, one that stands in braces is closed.

* `Toml` : the tree, `Origin` : how a table came about;
* `Toml.toJson` : the document as the value that records are read from.
-/

namespace CatalogFinder

/-- How a table came about. -/
inductive Origin where
  /-- A header names a table below it. -/
  | implied
  /-- A dotted key goes through it. -/
  | dotted
  /-- A header names it. -/
  | declared
  /-- It is written in braces. -/
  | closed
  deriving DecidableEq, Repr

/-- A value of a TOML document. -/
inductive Toml where
  | string (s : String)
  | integer (i : Int)
  /-- A number with a fraction or an exponent; no number for an infinity or NaN. -/
  | float (d : Option Decimal)
  | boolean (b : Bool)
  | dateTime (text : String)
  /-- An array: `growing` if headers add tables to it, else written in brackets. -/
  | array (growing : Bool) (items : List Toml)
  | table (origin : Origin) (entries : List (String × Toml))
  deriving Inhabited

namespace Toml

/-- The name under which a date or time is found in a record. -/
def dateTimeName : String := "date-time"

mutual

/-- The value as records are read from it. A date or time is a record of its own kind. -/
def toJson : Toml → Json
  | string s => .string s
  | integer i => .integer i
  | float (some d) => .real (.ofDecimal d)
  | float none => .illFormed
  | boolean b => .boolean b
  | dateTime text => .object [(dateTimeName, .string text)]
  | array _ items => .array (itemsToJson items)
  | table _ entries => .object (entriesToJson entries)

def itemsToJson : List Toml → List Json
  | [] => []
  | v :: rest => toJson v :: itemsToJson rest

def entriesToJson : List (String × Toml) → List (String × Json)
  | [] => []
  | (name, v) :: rest => (name, toJson v) :: entriesToJson rest

end

end Toml

end CatalogFinder
