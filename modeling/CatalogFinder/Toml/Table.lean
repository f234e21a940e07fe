import CatalogFinder.Toml.Basic

/-!
# Filling TOML tables

A dotted key leads through tables to the place of a value. On the way, tables that are missing are made, and the last
table of a growing array stands for the array.

* `descend?` : changes the table at the end of a way;
* `assign?` : puts a value in its place, `declare?` and `append?` : put the table below a header in its place.

No value is ever replaced: each of the three refuses a name that is taken, save that a header may name a table that so
far was only implied.
-/

namespace CatalogFinder.Toml

/-- A dotted key: the names on the way, and the last one. -/
structure Key where
  parents : List String
  name : String
  deriving DecidableEq, Repr

/-- The entries of a table, where no name comes twice. -/
abbrev Entries := List (String × Toml)

/-- The entries with another value under a name that they have. -/
def replaced (name : String) (v : Toml) (entries : Entries) : Entries :=
  entries.map fun e => if e.1 = name then (name, v) else e

/-- The entries with a new one, unless its name is taken. -/
def added? (name : String) (v : Toml) (entries : Entries) : Option Entries :=
  match entries.lookup name with
  | some _ => none
  | none => some (entries ++ [(name, v)])

/-- A way that tables make for each other: by a header, or by a dotted key. -/
inductive Way where
  | header
  | key
  deriving DecidableEq, Repr

namespace Way

/-- How a table on the way comes about if it is missing. -/
def origin : Way → Origin
  | header => .implied
  | key => .dotted

/-- The way may go through a table that came about like this. -/
def passes : Way → Origin → Bool
  | header, o => o ≠ .closed
  | key, o => o ≠ .closed && o ≠ .declared

end Way

/-- The entries of a table of an origin, after a change of the table at the end of the way. -/
def descend? (way : Way) (change : Origin → Entries → Option Entries) :
    List String → Origin → Entries → Option Entries
  | [], origin, entries => change origin entries
  | name :: rest, _, entries =>
    match entries.lookup name with
    | none => do
      let inner ← descend? way change rest way.origin []
      return entries ++ [(name, table way.origin inner)]
    | some (table origin inner) => do
      guard (way.passes origin)
      return replaced name (table origin (← descend? way change rest origin inner)) entries
    | some (array true items) =>
      match items.getLast? with
      | some (table origin inner) => do
        let last := table origin (← descend? way change rest origin inner)
        return replaced name (array true (items.dropLast ++ [last])) entries
      | _ => none
    | some _ => none

/-- Puts a value in the place of its key. -/
def assign? (entries : Entries) (key : Key) (v : Toml) : Option Entries :=
  let change (origin : Origin) (entries : Entries) : Option Entries := do
    -- a dotted key ends in a table that dotted keys have made
    guard (key.parents.isEmpty || origin = .dotted)
    added? key.name v entries
  descend? .key change key.parents .declared entries

/-- Puts several values in their places. -/
def assignAll? (entries : Entries) (values : List (Key × Toml)) : Option Entries :=
  values.foldlM (fun entries (key, v) => assign? entries key v) entries

/-- Puts the table of a header in its place. -/
def declare? (entries : Entries) (key : Key) (values : List (Key × Toml)) : Option Entries :=
  let change (_ : Origin) (entries : Entries) : Option Entries :=
    match entries.lookup key.name with
    | none => do return entries ++ [(key.name, table .declared (← assignAll? [] values))]
    -- a table that headers have only gone through may still be declared
    | some (table .implied inner) => do
      return replaced key.name (table .declared (← assignAll? inner values)) entries
    | some _ => none
  descend? .header change key.parents .declared entries

/-- Puts a table at the end of the growing array of a header. -/
def append? (entries : Entries) (key : Key) (values : List (Key × Toml)) : Option Entries :=
  let change (_ : Origin) (entries : Entries) : Option Entries :=
    match entries.lookup key.name with
    | none => do return entries ++ [(key.name, array true [table .declared (← assignAll? [] values)])]
    | some (array true items) => do
      return replaced key.name (array true (items ++ [table .declared (← assignAll? [] values)])) entries
    | some _ => none
  descend? .header change key.parents .declared entries

end CatalogFinder.Toml
