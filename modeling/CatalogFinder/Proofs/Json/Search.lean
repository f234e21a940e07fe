import CatalogFinder.Proofs.Json.Catalog
import CatalogFinder.Proofs.Snapshot.Store
import CatalogFinder.Search.Json

/-!
# What is searched for and found, in JSON

Parameters, references and catalog objects are read from JSON as they were written. A tagged record is read only where it
is not nested too deeply; what is written never is.

* `Json.tagged?_object` : a record with its tag in front is read;
* `Params.ofJson?_toJson`, `Reference.ofJson?_toJson`, `CatalogObject.ofJson?_toJson` : all of them are read;
* `read_of_written` : caches, also stored ones, references, objects and parameters are read from their texts.
-/

namespace CatalogFinder

namespace Json

/-! ## Tagged records -/

mutual

/-- An exact value has a text or a number in every part. -/
theorem wellFormed_of_exact (j : Json) (h : j.exact = true) : j.wellFormed = true := by
  match j, h with
  | null, _ => rfl
  | boolean _, _ => rfl
  | integer _, _ => rfl
  | string _, _ => rfl
  | array items, h =>
    rw [exact] at h
    rw [wellFormed, wellFormedItems_of_exact items h]
  | object members, h =>
    rw [exact] at h
    rw [wellFormed, wellFormedMembers_of_exact members h]

theorem wellFormedItems_of_exact (items : List Json) (h : exactItems items = true) : wellFormedItems items = true := by
  match items, h with
  | [], _ => rfl
  | j :: rest, h =>
    rw [exactItems, Bool.and_eq_true] at h
    rw [wellFormedItems, wellFormed_of_exact j h.1, wellFormedItems_of_exact rest h.2, Bool.and_self]

theorem wellFormedMembers_of_exact (members : List (String × Json)) (h : exactMembers members = true) :
    wellFormedMembers members = true := by
  match members, h with
  | [], _ => rfl
  | (name, j) :: rest, h =>
    rw [exactMembers, Bool.and_eq_true] at h
    rw [wellFormedMembers, wellFormed_of_exact j h.1, wellFormedMembers_of_exact rest h.2, Bool.and_self]

end

/-- A record with its tag in front is read as both, unless it is nested too deeply or has a second tag. -/
theorem tagged?_object {outer : Nat} {tag : String} {members : List (String × Json)}
    (hexact : exactMembers members = true) (hdepth : outer + depthMembers members < maxTaggedDepth)
    (hnames : members.all (·.1 != "kind") = true) :
    tagged? outer (object (("kind", string tag) :: members)) = some (tag, object members) := by
  have hformed : (object (("kind", string tag) :: members)).wellFormed = true := by
    rw [wellFormed, wellFormedMembers, wellFormedMembers_of_exact members hexact]
    rfl
  have hdeep : ¬ maxTaggedDepth < outer + (object (("kind", string tag) :: members)).depth := by
    have h : (object (("kind", string tag) :: members)).depth = depthMembers members + 1 := by
      simp [depth, depthMembers]
    omega
  have hkind : (("kind", string tag) :: members).filter (·.1 == "kind") = [("kind", string tag)] := by
    rw [List.filter_cons_of_pos (by rfl)]
    refine congrArg _ (List.filter_eq_nil_iff.2 fun e he => ?_)
    simpa using List.all_eq_true.1 hnames e he
  have hrest : (("kind", string tag) :: members).filter (·.1 != "kind") = members := by
    rw [List.filter_cons_of_neg (by simp)]
    exact List.filter_eq_self.2 fun e he => List.all_eq_true.1 hnames e he
  rw [tagged?, hformed]
  simp only [Bool.not_true, Bool.false_or, decide_eq_true_eq, hdeep, if_false, hkind, hrest]

/-! ## Depths -/

theorem depth_ofString? (text : Option String) : (ofString? text).depth = 0 := by
  cases text <;> rfl

theorem depthItems_map_le {α : Type} {write : α → Json} {n : Nat} (h : ∀ a, (write a).depth ≤ n) (items : List α) :
    depthItems (items.map write) ≤ n := by
  induction items with
  | nil => exact Nat.zero_le n
  | cons a items ih =>
    rw [List.map_cons, depthItems]
    exact Nat.max_le.2 ⟨h a, ih⟩

theorem uint64?_toNat (n : UInt64) : uint64? (integer n.toNat) = some n := by
  have hbelow : natBelow? UInt64.size (integer n.toNat) = some n.toNat := natBelow?_natCast n.toNat_lt_size
  have hword : (some n.toNat).map UInt64.ofNat = some n := by simp
  unfold uint64?
  exact (congrArg (Option.map UInt64.ofNat) hbelow).trans hword

theorem exact_uint64 (n : UInt64) : (integer n.toNat).exact = true := by
  have hlt : n.toNat < UInt64.size := n.toNat_lt_size
  rw [exact, Bool.and_eq_true]
  exact ⟨decide_eq_true (by omega), decide_eq_true (by omega)⟩

/-- What is read from the value that was written is read from its text. -/
theorem read_compact {α : Type} {read : Json → Option α} {j : Json} {a : α} (hexact : j.exact = true)
    (hread : read j = some a) : (parse? j.compact).bind read = some a := by
  rw [parse?_compact hexact, Option.bind_some, hread]

end Json

/-! ## Catalog objects -/

theorem Column.depth_toJson (c : Column) : c.toJson.depth = 1 := by
  simp [toJson, Json.depth, Json.depthMembers]

theorem Category.depth_toJson (c : Category) : c.toJson.depth = 0 := by
  cases c <;> rfl

theorem Relation.depth_toJson (r : Relation) : r.toJson.depth ≤ 3 := by
  have hcolumns : Json.depthItems (r.columns.map Column.toJson) ≤ 1 :=
    Json.depthItems_map_le (fun c => Nat.le_of_eq c.depth_toJson) r.columns
  simp only [toJson, Json.depth, Json.depthMembers, Category.depth_toJson, Json.depth_ofString?]
  omega

theorem Routine.depth_toJson (r : Routine) : r.toJson.depth ≤ 2 := by
  have hnames : Json.depthItems (r.specificNames.map Json.string) ≤ 0 :=
    Json.depthItems_map_le (fun name => Nat.le_refl 0) r.specificNames
  simp only [toJson, Json.strings, Json.depth, Json.depthMembers, Json.depth_ofString?]
  omega

namespace CatalogObject

theorem exact_toJson (o : CatalogObject) : o.toJson.exact = true := by
  cases o with
  | relation schema r => simp [toJson, Json.exact, Json.exactMembers, r.exact_toJson]
  | column schema owner c => simp [toJson, Json.exact, Json.exactMembers, c.exact_toJson]
  | routine schema r => simp [toJson, Json.exact, Json.exactMembers, r.exact_toJson]

section Tagged
variable {j record : Json} {schema owner : String}

theorem ofJson?_relation {r : Relation} (hread : Relation.ofJson? .tagged record = some r)
    (htagged : Json.tagged? 0 j = some ("relation", .object [("schema", .string schema), ("relation", record)])) :
    ofJson? j = some (relation schema r) := by
  rw [ofJson?, htagged]
  simp [Json.fields?_object, Json.Fields.required, List.lookup_cons, Json.string?, hread]

theorem ofJson?_column {c : Column} (hread : Column.ofJson? .tagged record = some c)
    (htagged : Json.tagged? 0 j =
      some ("column", .object [("schema", .string schema), ("owner", .string owner), ("column", record)])) :
    ofJson? j = some (column schema owner c) := by
  rw [ofJson?, htagged]
  simp [Json.fields?_object, Json.Fields.required, List.lookup_cons, Json.string?, hread]

theorem ofJson?_routine {r : Routine} (hread : Routine.ofJson? .tagged record = some r)
    (htagged : Json.tagged? 0 j = some ("routine", .object [("schema", .string schema), ("routine", record)])) :
    ofJson? j = some (routine schema r) := by
  rw [ofJson?, htagged]
  simp [Json.fields?_object, Json.Fields.required, List.lookup_cons, Json.string?, hread]

end Tagged

theorem ofJson?_toJson (o : CatalogObject) : ofJson? o.toJson = some o := by
  cases o with
  | relation schema r =>
    refine ofJson?_relation (r.ofJson?_toJson .tagged) (Json.tagged?_object ?_ ?_ (by simp))
    · simp [Json.exactMembers, Json.exact, r.exact_toJson]
    · have hdepth := r.depth_toJson
      simp only [Json.depthMembers, Json.depth, Json.maxTaggedDepth]
      omega
  | column schema owner c =>
    refine ofJson?_column (c.ofJson?_toJson .tagged) (Json.tagged?_object ?_ ?_ (by simp))
    · simp [Json.exactMembers, Json.exact, c.exact_toJson]
    · simp only [Json.depthMembers, Json.depth, Json.maxTaggedDepth, c.depth_toJson]
      omega
  | routine schema r =>
    refine ofJson?_routine (r.ofJson?_toJson .tagged) (Json.tagged?_object ?_ ?_ (by simp))
    · simp [Json.exactMembers, Json.exact, r.exact_toJson]
    · have hdepth := r.depth_toJson
      simp only [Json.depthMembers, Json.depth, Json.maxTaggedDepth]
      omega

end CatalogObject

/-! ## References -/

namespace Container

theorem exact_toJson (c : Container) : c.toJson.exact = true := by
  cases c <;> rfl

/-- A container is read wherever its record may stand. -/
theorem ofJson?_toJson {outer : Nat} (h : outer < Json.maxTaggedDepth) (c : Container) :
    ofJson? outer c.toJson = some c := by
  have htagged : ∀ tag members, Json.exactMembers members = true → Json.depthMembers members = 0 →
      members.all (·.1 != "kind") = true →
      Json.tagged? outer (.object (("kind", .string tag) :: members)) = some (tag, .object members) :=
    fun tag members hexact hdepth => Json.tagged?_object hexact (by omega)
  cases c with
  | schema s =>
    rw [ofJson?, toJson, htagged "schema" _ rfl rfl rfl]
    simp [Json.fields?_object, Json.Fields.required, List.lookup_cons, Json.string?]
  | table s t =>
    rw [ofJson?, toJson, htagged "table" _ rfl rfl rfl]
    simp [Json.fields?_object, Json.Fields.required, List.lookup_cons, Json.string?]
  | view s v =>
    rw [ofJson?, toJson, htagged "view" _ rfl rfl rfl]
    simp [Json.fields?_object, Json.Fields.required, List.lookup_cons, Json.string?]

end Container

namespace Reference

theorem exact_toJson (r : Reference) : r.toJson.exact = true := by
  simp [toJson, Json.exact, Json.exactMembers, Container.exact_toJson, Category.exact_toJson]

theorem ofJson?_toJson (rules : Json.Rules) (r : Reference) : ofJson? rules r.toJson = some r := by
  have hcontainer := Container.ofJson?_toJson (show 1 < Json.maxTaggedDepth by decide) r.container
  have hcategory := Category.ofJson?_toJson rules r.category
  unfold ofJson? toJson
  simp [Json.fields?_object, Json.Fields.required, List.lookup_cons, Json.string?, hcontainer, hcategory]

end Reference

/-! ## Parameters -/

namespace ObjectType

theorem exact_toJson (t : ObjectType) : t.toJson.exact = true := by
  cases t with
  | category c => simp [toJson, Json.exact, Json.exactMembers, c.exact_toJson]
  | _ => rfl

theorem ofJson?_toJson (rules : Json.Rules) (t : ObjectType) : ofJson? rules t.toJson = some t := by
  cases t with
  | category c => simp [ofJson?, toJson, Json.variant?, c.ofJson?_toJson]
  | _ => rfl

end ObjectType

namespace Params

theorem exact_toJson (p : Params) : p.toJson.exact = true := by
  have htypes := Json.exactItems_map ObjectType.exact_toJson p.objectTypes
  have hobjects : (Json.array (p.objectTypes.map ObjectType.toJson)).exact = true := by rw [Json.exact, htypes]
  have hlimit := Json.exact_uint64 p.maxResults
  rw [toJson, Json.exact]
  simp only [Json.exactMembers, hobjects, Json.exact_ofString?, hlimit]
  rfl

theorem ofJson?_toJson (rules : Json.Rules) (p : Params) : ofJson? rules p.toJson = some p := by
  have htypes := Json.list?_map (ObjectType.ofJson?_toJson rules) p.objectTypes
  have hscope := Json.nullable?_ofString? p.scope
  -- the limit is not looked into before it is read
  have hread : ∀ j, Json.uint64? j = some p.maxResults → ofJson? rules (.object [("mask", .string p.mask),
      ("case_sensitive", .boolean p.caseSensitive), ("object_types", .array (p.objectTypes.map ObjectType.toJson)),
      ("scope", .ofString? p.scope), ("global_search", .boolean p.globalSearch),
      ("search_in_definitions", .boolean p.inDefinitions), ("max_results", j)]) = some p := by
    intro j hj
    rw [ofJson?, Json.fields?_object rules (by simp)]
    dsimp only [Option.bind_eq_bind, Option.bind_some, Json.Fields.required, Json.Fields.optional, List.lookup_cons,
      Json.string?, Json.boolean?, String.reduceBEq]
    rw [htypes, hscope]
    dsimp only [Option.bind_some]
    rw [hj]
    rfl
  exact hread _ (Json.uint64?_toNat p.maxResults)

end Params

/-! ## Texts -/

/-- A store finds the cache that it has just saved. -/
theorem SnapshotStore.load_save (store : SnapshotStore) (hash : String) (cache : Cache) (time : Nat) :
    (store.save hash cache time).load hash = .ok (some cache) := by
  have hkept := store.kept?_save hash cache time hash
  rw [if_pos rfl] at hkept
  exact load_of_kept hkept

/-- **What is written in JSON is read back**: a cache from its text, and from a store under the hash that it has been
saved under; references, catalog objects and parameters from theirs. -/
theorem read_of_written :
    (∀ cache : Cache, Cache.decode? cache.encode = some cache) ∧
    (∀ (store : SnapshotStore) (hash : String) (cache : Cache) (time : Nat),
      (store.save hash cache time).load hash = .ok (some cache)) ∧
    (∀ r : Reference, (Json.parse? r.toJson.compact).bind (Reference.ofJson? .plain) = some r) ∧
    (∀ o : CatalogObject, (Json.parse? o.toJson.compact).bind CatalogObject.ofJson? = some o) ∧
    ∀ p : Params, (Json.parse? p.toJson.compact).bind (Params.ofJson? .plain) = some p := by
  refine ⟨fun cache => cache.parse?_encode, SnapshotStore.load_save, fun r => ?_, fun o => ?_, fun p => ?_⟩
  · exact Json.read_compact r.exact_toJson (r.ofJson?_toJson .plain)
  · exact Json.read_compact o.exact_toJson o.ofJson?_toJson
  · exact Json.read_compact p.exact_toJson (p.ofJson?_toJson .plain)

end CatalogFinder
