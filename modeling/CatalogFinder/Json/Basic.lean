import CatalogFinder.Number.Binary64

/-!
# JSON values

`Json` keeps what a JSON text says and no more: members in their order and with their repetitions, integers apart from
numbers written with a fraction or an exponent. A string that escapes half of a surrogate pair has no text, and a
number beyond the binary64 range has no value: both are `illFormed`, which may be skipped but not read.

* `Json.depth` : how deep arrays and objects are nested;
* `Json.wellFormed` : nothing in the value is `illFormed`.
-/

namespace CatalogFinder

inductive Json where
  | null
  | boolean (b : Bool)
  | integer (i : Int)
  | real (x : Binary64)
  | string (s : String)
  | array (items : List Json)
  | object (members : List (String × Json))
  | illFormed
  deriving Inhabited

namespace Json

mutual

def depth : Json → Nat
  | array items => depthItems items + 1
  | object members => depthMembers members + 1
  | _ => 0

def depthItems : List Json → Nat
  | [] => 0
  | j :: rest => max (depth j) (depthItems rest)

def depthMembers : List (String × Json) → Nat
  | [] => 0
  | (_, j) :: rest => max (depth j) (depthMembers rest)

end

mutual

/-- Every part of the value has a text or a number. -/
def wellFormed : Json → Bool
  | illFormed => false
  | array items => wellFormedItems items
  | object members => wellFormedMembers members
  | _ => true

def wellFormedItems : List Json → Bool
  | [] => true
  | j :: rest => wellFormed j && wellFormedItems rest

def wellFormedMembers : List (String × Json) → Bool
  | [] => true
  | (_, j) :: rest => wellFormed j && wellFormedMembers rest

end

def ofString? : Option String → Json
  | some s => string s
  | none => null

def strings (texts : List String) : Json := array (texts.map string)

end Json

end CatalogFinder
