import CatalogFinder.Json.Basic
import CatalogFinder.NameMap

/-!
# Records in JSON

How the types of this library are read from JSON values. A record is an object, or an array of its fields in their
order. Members of other names are skipped, a repeated field is refused. A field is `required`, `optional` (null, or
left out of an object) or `defaulted` (left out of either). A variant is its name, or an object from its name to its
payload; a tagged record holds its variant as the member `kind`, or as the first item.

* `Rules` : the leniencies that depend on where a value stands;
* `fields?` : the fields of a record;
* `variant?`, `tagged?` : the two forms of alternatives.
-/

namespace CatalogFinder.Json

/-- Leniencies in reading: `surplus` lets an array hold more items than a record has fields, `emptyPayload` lets an
empty object stand for no payload. -/
structure Rules where
  surplus : Bool
  emptyPayload : Bool

/-- Nothing is let pass. -/
def Rules.plain : Rules := ⟨false, false⟩

/-- Below a tag an empty object stands for no payload. -/
def Rules.tagged : Rules := ⟨false, true⟩

/-- In a settings file surplus items are let pass. -/
def Rules.file : Rules := ⟨true, false⟩

/-! ## Plain values -/

def string? : Json → Option String
  | string s => some s
  | _ => none

def boolean? : Json → Option Bool
  | boolean b => some b
  | _ => none

/-- An integer from 0 up to a bound, which is left out. -/
def natBelow? (bound : Nat) : Json → Option Nat
  | integer i => if 0 ≤ i && i < bound then some i.toNat else none
  | _ => none

def uint32? (j : Json) : Option UInt32 := (natBelow? UInt32.size j).map UInt32.ofNat

def uint64? (j : Json) : Option UInt64 := (natBelow? UInt64.size j).map UInt64.ofNat

def char? : Json → Option Char
  | string s =>
    match s.toList with
    | [c] => some c
    | _ => none
  | _ => none

def nullable? {α : Type} (read : Json → Option α) : Json → Option (Option α)
  | null => some none
  | j => (read j).map some

def list? {α : Type} (read : Json → Option α) : Json → Option (List α)
  | array items => items.mapM read
  | _ => none

/-- An object as a map, where the last member of a name counts. -/
def nameMap? {α : Type} (read : Json → Option α) : Json → Option (NameMap α)
  | object members => (members.mapM fun e => (read e.2).map (e.1, ·)).map NameMap.ofList
  | _ => none

def ofNameMap {α : Type} (write : α → Json) (m : NameMap α) : Json :=
  object (m.entries.map fun e => (e.1, write e.2))

/-! ## Fields -/

/-- The fields of a record that are given, and whether they are given by name. -/
structure Fields where
  named : Bool
  get? : String → Option Json

/-- The fields of the record with these field names. -/
def fields? (rules : Rules) (names : List String) : Json → Option Fields
  | object members =>
    if names.all fun n => members.countP (·.1 == n) ≤ 1 then some ⟨true, fun n => members.lookup n⟩ else none
  | array items =>
    if rules.surplus || items.length ≤ names.length then some ⟨false, fun n => (names.zip items).lookup n⟩ else none
  | _ => none

namespace Fields

variable {α : Type}

/-- A field that has to be there. -/
def required (f : Fields) (name : String) (read : Json → Option α) : Option α := f.get? name >>= read

/-- A field that may be null, and may be left out of an object. -/
def optional (f : Fields) (name : String) (read : Json → Option α) : Option (Option α) :=
  match f.get? name with
  | some j => nullable? read j
  | none => if f.named then some none else none

/-- A field that may be left out and then has a given value. -/
def defaulted (f : Fields) (name : String) (read : Json → Option α) (value : α) : Option α :=
  match f.get? name with
  | some j => read j
  | none => some value

end Fields

/-! ## Alternatives -/

/-- The name of a variant and its payload, if there is one. -/
def variant? : Json → Option (String × Option Json)
  | string name => some (name, none)
  | object [(name, payload)] => some (name, some payload)
  | _ => none

/-- There is no payload, or one that stands for none. -/
def noPayload (rules : Rules) : Option Json → Bool
  | none => true
  | some null => true
  | some (object []) => rules.emptyPayload
  | some _ => false

/-- How deep a text may be nested where a tagged record is read. -/
def maxTaggedDepth : Nat := 127

/-- The tag of a tagged record and the record itself, which stands so deep in its text. -/
def tagged? (outer : Nat) (j : Json) : Option (String × Json) :=
  if !j.wellFormed || maxTaggedDepth < outer + j.depth then none
  else match j with
    | object members =>
      match members.filter (·.1 == "kind") with
      | [(_, string tag)] => some (tag, object (members.filter (·.1 != "kind")))
      | _ => none
    | array (string tag :: items) => some (tag, array items)
    | _ => none

end CatalogFinder.Json
