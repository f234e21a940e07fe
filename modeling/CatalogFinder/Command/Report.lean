import CatalogFinder.Command.Invocation
import CatalogFinder.Search.Json
import CatalogFinder.Search.Plan
import CatalogFinder.Snapshot.Store

/-!
# What commands write

The texts in which commands give their results. Every text ends its last line.
-/

namespace CatalogFinder.Report

/-- Lines, each with its end. -/
def lines (ls : List String) : String := String.join (ls.map (· ++ "\n"))

/-- References, a line each or as JSON. -/
def references (refs : List Reference) : OutputForm → String
  | .json => lines [(Json.array (refs.map Reference.toJson)).pretty]
  | .text => if refs.isEmpty then lines ["No objects found."] else lines (refs.map Reference.display)

/-- An object as JSON, in one line or several. -/
def object (o : CatalogObject) : OutputForm → String
  | .json => lines [o.toJson.pretty]
  | .text => lines [o.toJson.compact]

/-- The queries of a plan, each with its group and its parameters and an empty line behind it. -/
def queries (planned : List (Group × Query)) : String :=
  if planned.isEmpty then lines ["-- No supported object types requested"]
  else lines (planned.flatMap fun (group, query) =>
    ["-- Group: " ++ group.name] ++
      (if query.parameters.isEmpty then [] else ["-- Parameters: " ++ ", ".intercalate query.parameters]) ++
      [query.sql, ""])

def padded (width : Nat) (text : String) : String := text ++ String.ofList (List.replicate (width - text.length) ' ')

def typeRow (name codes hyperlink autocomplete definitions : String) : String :=
  " ".intercalate [padded 10 name, padded 12 codes, padded 10 hyperlink, padded 13 autocomplete, definitions]

def yesNo (b : Bool) : String := if b then "yes" else "no"

/-- The categories with their type codes and what they offer. -/
def types : String :=
  lines (typeRow "TYPE" "CODES" "HYPERLINK" "AUTOCOMPLETE" "DEFINITIONS" :: Category.all.map fun c =>
    let codes := String.ofList (TypeCodes.standard.codesFor c)
    typeRow c.label (if codes.isEmpty then "-" else codes) (yesNo c.isNavigable) (yesNo c.isNavigable)
      (yesNo c.hasDefinition))

def saved (name : String) (cache : Cache) : String :=
  lines [s!"Saved snapshot for '{name}': {cache.size} schemas, {cache.objectCount} objects"]

def cleared (name : String) (count : Nat) : String := lines [s!"Cleared {count} entries for '{name}'"]

def clearedAll : String := lines ["Cleared all snapshots"]

def stats (s : StoreStats) : String := lines [s!"Snapshots: {s.count}", s!"Total size: {s.size} bytes"]

end CatalogFinder.Report
