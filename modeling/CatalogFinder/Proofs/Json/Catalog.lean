import CatalogFinder.Catalog.Json
import CatalogFinder.Proofs.Json.Reading
import CatalogFinder.Proofs.NameMap

/-!
# A stored cache is the cache

Every type of the catalog is read from JSON as it was written, whatever the leniencies of the place; so the text of a
cache holds the whole cache.

* `Json.nameMap?_ofNameMap` : a map is read if its values are;
* `Cache.ofJson?_toJson`, `Cache.parse?_encode` : a cache is read from its record, and from its text.
-/

namespace CatalogFinder

namespace Json

variable {α : Type}

/-- A list is read if every item is read as it was written. -/
theorem mapM_map_write {β γ : Type} (read : γ → Option β) (write : β → γ) (h : ∀ b, read (write b) = some b)
    (items : List β) : (items.map write).mapM read = some items := by
  induction items with
  | nil => rfl
  | cons b items ih => simp [h, ih]

theorem list?_map {read : Json → Option α} {write : α → Json} (h : ∀ a, read (write a) = some a) (items : List α) :
    list? read (array (items.map write)) = some items := mapM_map_write read write h items

theorem nameMap?_ofNameMap {read : Json → Option α} {write : α → Json} (h : ∀ a, read (write a) = some a)
    (m : NameMap α) : nameMap? read (ofNameMap write m) = some m := by
  have hread := mapM_map_write (fun e : String × Json => (read e.2).map (e.1, ·))
    (fun e : String × α => (e.1, write e.2)) (fun e => by simp [h]) m.entries
  rw [ofNameMap, nameMap?, hread, Option.map_some, NameMap.ofList_entries]

theorem nullable?_ofString? (text : Option String) : nullable? string? (ofString? text) = some text := by
  cases text <;> rfl

end Json

/-! ## Records -/

theorem Category.ofJson?_toJson (rules : Json.Rules) (c : Category) : ofJson? rules c.toJson = some c := by
  cases c <;> rfl

namespace Json

/-- Reading a record is looking up its fields. -/
theorem fields?_object (rules : Rules) {names : List String} {members : List (String × Json)}
    (h : (names.all fun n => members.countP (·.1 == n) ≤ 1) = true) :
    fields? rules names (object members) = some ⟨true, fun n => members.lookup n⟩ := by
  rw [fields?, if_pos h]

theorem natBelow?_natCast {bound n : Nat} (h : n < bound) : natBelow? bound (integer n) = some n := by
  have hlt : (n : Int) < bound := by omega
  simp [natBelow?, hlt]

theorem uint32?_toNat (n : UInt32) : uint32? (integer n.toNat) = some n := by
  have hbelow : natBelow? UInt32.size (integer n.toNat) = some n.toNat := natBelow?_natCast n.toNat_lt_size
  have hword : (some n.toNat).map UInt32.ofNat = some n := by simp
  unfold uint32?
  exact (congrArg (Option.map UInt32.ofNat) hbelow).trans hword

theorem char?_singleton (c : Char) : char? (string (String.singleton c)) = some c := by
  simp [char?]

end Json

theorem Column.ofJson?_toJson (rules : Json.Rules) (c : Column) : ofJson? rules c.toJson = some c := by
  have hread : ∀ j, Json.uint32? j = some c.ordinal → ofJson? rules (.object [("name", .string c.name), ("ordinal", j),
      ("data_type", .string c.dataType), ("nullable", .boolean c.nullable)]) = some c := by
    intro j hj
    simp [ofJson?, Json.fields?_object, Json.Fields.required, hj, Json.string?, Json.boolean?, List.lookup_cons]
  exact hread _ (Json.uint32?_toNat c.ordinal)

theorem Relation.ofJson?_toJson (rules : Json.Rules) (r : Relation) : ofJson? rules r.toJson = some r := by
  have hcategory := Category.ofJson?_toJson rules r.category
  have hcode : Json.char? (.string r.typeCode.toString) = some r.typeCode := Json.char?_singleton r.typeCode
  have hcolumns := Json.list?_map (Column.ofJson?_toJson rules) r.columns
  have hdefinition := Json.nullable?_ofString? r.definition
  -- a full simp would go through the rest of the record again for every field
  rw [ofJson?, toJson, Json.fields?_object rules (by simp)]
  dsimp only [Option.bind_eq_bind, Option.bind_some, Json.Fields.required, Json.Fields.defaulted, List.lookup_cons,
    Json.string?, String.reduceBEq]
  rw [hcategory, hcode, hcolumns, hdefinition]
  rfl

theorem Routine.ofJson?_toJson (rules : Json.Rules) (r : Routine) : ofJson? rules r.toJson = some r := by
  have hnames : Json.list? Json.string? (Json.strings r.specificNames) = some r.specificNames :=
    Json.mapM_map_write Json.string? Json.string (fun _ => rfl) r.specificNames
  have htext := Json.nullable?_ofString? r.text
  rw [ofJson?, toJson, Json.fields?_object rules (by simp)]
  dsimp only [Option.bind_eq_bind, Option.bind_some, Json.Fields.required, Json.Fields.defaulted, List.lookup_cons,
    Json.string?, String.reduceBEq]
  rw [hnames, htext]
  rfl

theorem Schema.ofJson?_toJson (rules : Json.Rules) (s : Schema) : ofJson? rules s.toJson = some s := by
  have hrelations := Json.nameMap?_ofNameMap (Relation.ofJson?_toJson rules) s.relations
  have hroutines := Json.nameMap?_ofNameMap (Routine.ofJson?_toJson rules) s.routines
  unfold ofJson? toJson
  simp [Json.fields?_object, Json.Fields.required, hrelations, hroutines, Json.string?, List.lookup_cons]

theorem Cache.ofJson?_toJson (rules : Json.Rules) (c : Cache) : ofJson? rules c.toJson = some c := by
  have hschemas := Json.nameMap?_ofNameMap (Schema.ofJson?_toJson rules) c.schemas
  unfold ofJson? toJson
  simp [Json.fields?_object, Json.Fields.required, hschemas, List.lookup_cons]

/-! ## Texts -/

namespace Json

variable {α : Type}

theorem exactItems_map {write : α → Json} (h : ∀ a, (write a).exact = true) (items : List α) :
    exactItems (items.map write) = true := by
  induction items with
  | nil => rfl
  | cons a items ih => rw [List.map_cons, exactItems, h, ih, Bool.and_self]

theorem exact_strings (texts : List String) : (strings texts).exact = true := by
  rw [strings, exact]
  exact exactItems_map (fun text => rfl) texts

theorem exact_ofString? (text : Option String) : (ofString? text).exact = true := by
  cases text <;> rfl

theorem exact_ofNameMap {write : α → Json} (h : ∀ a, (write a).exact = true) (m : NameMap α) :
    (ofNameMap write m).exact = true := by
  rw [ofNameMap, exact]
  induction m.entries with
  | nil => rfl
  | cons e entries ih => rw [List.map_cons, exactMembers, h, ih, Bool.and_self]

theorem exact_uint32 (n : UInt32) : (integer n.toNat).exact = true := by
  have hlt : n.toNat < UInt32.size := n.toNat_lt_size
  have hsize : UInt32.size ≤ UInt64.size := by decide
  rw [exact, Bool.and_eq_true]
  exact ⟨decide_eq_true (by omega), decide_eq_true (by omega)⟩

end Json

theorem Category.exact_toJson (c : Category) : c.toJson.exact = true := by
  cases c <;> rfl

theorem Column.exact_toJson (c : Column) : c.toJson.exact = true := by
  have hordinal := Json.exact_uint32 c.ordinal
  rw [toJson, Json.exact]
  simp only [Json.exactMembers, hordinal]
  rfl

theorem Relation.exact_toJson (r : Relation) : r.toJson.exact = true := by
  have hcolumns := Json.exactItems_map Column.exact_toJson r.columns
  simp [toJson, Json.exact, Json.exactMembers, Category.exact_toJson, hcolumns, Json.exact_ofString?]

theorem Routine.exact_toJson (r : Routine) : r.toJson.exact = true := by
  simp [toJson, Json.exact, Json.exactMembers, Json.exact_strings, Json.exact_ofString?]

theorem Schema.exact_toJson (s : Schema) : s.toJson.exact = true := by
  have hrelations := Json.exact_ofNameMap Relation.exact_toJson s.relations
  have hroutines := Json.exact_ofNameMap Routine.exact_toJson s.routines
  simp [toJson, Json.exact, Json.exactMembers, hrelations, hroutines]

theorem Cache.exact_toJson (c : Cache) : c.toJson.exact = true := by
  have hschemas := Json.exact_ofNameMap Schema.exact_toJson c.schemas
  simp [toJson, Json.exact, Json.exactMembers, hschemas]

/-- The text of a cache is read back as the cache. -/
theorem Cache.parse?_encode (c : Cache) : (Json.parse? c.encode).bind (ofJson? .plain) = some c := by
  have hparsed : Json.parse? c.encode = some c.toJson := Json.parse?_compact c.exact_toJson
  rw [hparsed, Option.bind_some, ofJson?_toJson]

end CatalogFinder
