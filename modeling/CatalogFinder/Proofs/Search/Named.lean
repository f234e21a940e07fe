import CatalogFinder.Proofs.NameMap
import CatalogFinder.Search.Run

/-!
# What a reference names

A look-up follows the names in the maps of a cache: that of the schema, that of the owner if there is one, and that of
the object. Where these are the names of what is stored under them, a reference names an object if the cache holds one
of its category and name in its container, and the object found is such a one.

* `NameMap.NamedBy`, `Cache.NamesAgree` : what is stored under a name carries it;
* `Schema.Holds`, `Schema.HoldsColumn`, `Reference.IsHeld` : what a schema and a cache hold;
* `Container.childIn?` : the look-up within a schema; it gives no object of another category;
* `Reference.resolve_exact` : when a reference resolves, to what, and how it fails.
-/

namespace CatalogFinder

/-! ## Names inside and outside -/

/-- Whatever is stored under a name carries this name. -/
def NameMap.NamedBy {α : Type} (m : NameMap α) (nameOf : α → String) : Prop :=
  ∀ name a, m.get? name = some a → nameOf a = name

theorem NameMap.NamedBy.get?_iff {α : Type} {m : NameMap α} {nameOf : α → String} (h : m.NamedBy nameOf)
    (name : String) (a : α) : m.get? name = some a ↔ a ∈ m.values ∧ nameOf a = name := by
  rw [mem_values_iff]
  constructor
  · intro ha
    exact ⟨⟨name, ha⟩, h name a ha⟩
  · rintro ⟨⟨other, ha⟩, rfl⟩
    rwa [h other a ha]

theorem NameMap.namedBy_iff {α : Type} {m : NameMap α} {nameOf : α → String} :
    m.NamedBy nameOf ↔ ∀ e ∈ m.entries, nameOf e.2 = e.1 := by
  unfold NamedBy
  simp only [get?_eq_some_iff, Prod.forall]

instance {α : Type} (m : NameMap α) (nameOf : α → String) : Decidable (m.NamedBy nameOf) :=
  decidable_of_iff _ NameMap.namedBy_iff.symm

/-- The names in the maps of a cache are those of the schemas, relations and routines that are stored under them. -/
structure Cache.NamesAgree (cache : Cache) : Prop where
  schemas : cache.schemas.NamedBy Schema.name
  relations : ∀ s ∈ cache.schemas.values, s.relations.NamedBy Relation.name
  routines : ∀ s ∈ cache.schemas.values, s.routines.NamedBy Routine.name

instance (cache : Cache) : Decidable cache.NamesAgree :=
  decidable_of_iff
    (cache.schemas.NamedBy Schema.name ∧ (∀ s ∈ cache.schemas.values, s.relations.NamedBy Relation.name) ∧
      ∀ s ∈ cache.schemas.values, s.routines.NamedBy Routine.name)
    ⟨fun h => ⟨h.1, h.2.1, h.2.2⟩, fun h => ⟨h.1, h.2, h.3⟩⟩

/-! ## What is held -/

/-- A routine, or a relation of exactly the category, lies directly in the schema. -/
def Schema.Holds (s : Schema) (c : Category) (name : String) : Prop :=
  (c = .routine ∧ ∃ r ∈ s.routines.values, r.name = name) ∨
    (c.isTableLike = true ∧ ∃ r ∈ s.relations.values, r.name = name ∧ r.category = c)

/-- A relation of one of the categories lies in the schema and has a column of the name. -/
def Schema.HoldsColumn (s : Schema) (categories : List Category) (owner name : String) : Prop :=
  ∃ r ∈ s.relations.values, r.name = owner ∧ r.category ∈ categories ∧ ∃ column ∈ r.columns, column.name = name

/-- The container, which lies in the schema, holds an object of the category and name. -/
def Container.HoldsIn (s : Schema) (c : Category) (name : String) : Container → Prop
  | schema _ => s.Holds c name
  | table _ owner => c = .column ∧ s.HoldsColumn [.table, .materializedView] owner name
  | view _ owner => c = .column ∧ s.HoldsColumn [.view] owner name

/-- The cache holds an object of the reference's category and name in its container. -/
def Reference.IsHeld (cache : Cache) (r : Reference) : Prop :=
  ∃ s ∈ cache.schemas.values, s.name = r.container.schemaName ∧ r.container.HoldsIn s r.category r.name

/-! ## Look-ups in a schema -/

section Schemas
variable {s : Schema} {c : Category} {owner name : String} {object : CatalogObject}

/-- An object of a category of relations is a relation of that category. -/
theorem Schema.object?_of_isTableLike (hc : c.isTableLike = true) (name : String) :
    s.object? c name = ((s.relation? name).filter (·.category = c)).map (.relation s.name) := by
  cases c with
  | column => cases hc
  | routine => cases hc
  | _ => rfl

/-- The three ways in which an object is looked up: not at all, as a routine, or as a relation of the category. -/
theorem Schema.object?_cases (h : s.object? c name = some object) :
    (c = .routine ∧ ∃ r, s.routine? name = some r ∧ object = .routine s.name r) ∨
      (c.isTableLike = true ∧ ∃ r, s.relation? name = some r ∧ r.category = c ∧ object = .relation s.name r) := by
  cases hc : c.isTableLike with
  | true =>
    rw [object?_of_isTableLike hc] at h
    obtain ⟨r, hr, rfl⟩ := Option.map_eq_some_iff.1 h
    obtain ⟨hrelation, hcategory⟩ := Option.filter_eq_some_iff.1 hr
    exact .inr ⟨rfl, r, hrelation, of_decide_eq_true hcategory, rfl⟩
  | false =>
    cases c with
    | column => cases h
    | routine =>
      obtain ⟨r, hr, rfl⟩ := Option.map_eq_some_iff.1 h
      exact .inl ⟨rfl, r, hr, rfl⟩
    | _ => cases hc

theorem Schema.exists_object?_iff (hrelations : s.relations.NamedBy Relation.name)
    (hroutines : s.routines.NamedBy Routine.name) : (∃ object, s.object? c name = some object) ↔ s.Holds c name := by
  constructor
  · rintro ⟨object, h⟩
    rcases object?_cases h with ⟨hc, r, hr, -⟩ | ⟨hc, r, hr, hcategory, -⟩
    · obtain ⟨hmem, hname⟩ := (hroutines.get?_iff name r).1 hr
      exact .inl ⟨hc, r, hmem, hname⟩
    · obtain ⟨hmem, hname⟩ := (hrelations.get?_iff name r).1 hr
      exact .inr ⟨hc, r, hmem, hname, hcategory⟩
  · rintro (⟨rfl, r, hmem, hname⟩ | ⟨hc, r, hmem, hname, hcategory⟩)
    · have hr : s.routine? name = some r := (hroutines.get?_iff name r).2 ⟨hmem, hname⟩
      exact ⟨.routine s.name r, by simp [object?, hr]⟩
    · have hr : s.relation? name = some r := (hrelations.get?_iff name r).2 ⟨hmem, hname⟩
      exact ⟨.relation s.name r, by simp [object?_of_isTableLike hc, hr, hcategory]⟩

/-- An owner of columns is a relation of certain categories. -/
theorem Schema.table?_eq_some_iff {r : Relation} :
    s.table? owner = some r ↔ s.relation? owner = some r ∧ r.category ∈ [Category.table, .materializedView] := by
  simp [table?, Option.filter_eq_some_iff]

theorem Schema.view?_eq_some_iff {r : Relation} :
    s.view? owner = some r ↔ s.relation? owner = some r ∧ r.category ∈ [Category.view] := by
  simp [view?, Option.filter_eq_some_iff]

/-- The object of a column carries the name of the column, and that of its owner. -/
theorem Relation.object?_eq_some_iff {r : Relation} {schema : String} :
    r.object? schema name = some object ↔
      ∃ column, r.column? name = some column ∧ column.name = name ∧ object = .column schema r.name column := by
  unfold object? column?
  rw [Option.map_eq_some_iff]
  constructor
  · rintro ⟨column, hcolumn, rfl⟩
    exact ⟨column, hcolumn, by simpa using List.find?_some hcolumn, rfl⟩
  · rintro ⟨column, hcolumn, -, rfl⟩
    exact ⟨column, hcolumn, rfl⟩

theorem Relation.exists_object?_iff {r : Relation} {schema : String} :
    (∃ object, r.object? schema name = some object) ↔ ∃ column ∈ r.columns, column.name = name := by
  simp only [← Option.isSome_iff_exists, object?, column?, Option.isSome_map, List.find?_isSome, beq_iff_eq]

end Schemas

/-! ## Look-ups in a container -/

namespace Container

/-- The object of a category and name that lies in the container, which lies in the schema. -/
def childIn? (s : Schema) (c : Category) (name : String) : Container → Option CatalogObject
  | schema _ => s.object? c name
  | table _ owner => if c = .column then (s.table? owner).bind (·.object? s.name name) else none
  | view _ owner => if c = .column then (s.view? owner).bind (·.object? s.name name) else none

theorem child?_eq (cache : Cache) (c : Category) (name : String) (container : Container) :
    container.child? cache c name = (cache.schema? container.schemaName).bind (container.childIn? · c name) := by
  cases container with
  | schema s => rfl
  | table s owner =>
    unfold child? childIn?
    by_cases hc : c = .column <;> simp [hc, schemaName]
  | view s owner =>
    unfold child? childIn?
    by_cases hc : c = .column <;> simp [hc, schemaName]

variable {s : Schema} {c : Category} {name : String} {container : Container} {object : CatalogObject}

/-- What lies in a table or a view is a column of a relation that is called as the container is. -/
theorem childIn?_cases (h : container.childIn? s c name = some object) :
    s.object? c name = some object ∨
      (c = .column ∧ ∃ r column, s.relation? container.name = some r ∧ column.name = name ∧
        object = .column s.name r.name column) := by
  cases container with
  | schema _ => exact .inl h
  | table _ owner =>
    obtain ⟨hc, h⟩ := Option.ite_none_right_eq_some.1 h
    obtain ⟨r, hr, hobject⟩ := Option.bind_eq_some_iff.1 h
    obtain ⟨column, -, hname, rfl⟩ := Relation.object?_eq_some_iff.1 hobject
    exact .inr ⟨hc, r, column, (Schema.table?_eq_some_iff.1 hr).1, hname, rfl⟩
  | view _ owner =>
    obtain ⟨hc, h⟩ := Option.ite_none_right_eq_some.1 h
    obtain ⟨r, hr, hobject⟩ := Option.bind_eq_some_iff.1 h
    obtain ⟨column, -, hname, rfl⟩ := Relation.object?_eq_some_iff.1 hobject
    exact .inr ⟨hc, r, column, (Schema.view?_eq_some_iff.1 hr).1, hname, rfl⟩

/-- No object of another category is found, and none of another schema. -/
theorem category_of_childIn? (h : container.childIn? s c name = some object) :
    object.category = c ∧ object.schema = s.name := by
  rcases childIn?_cases h with h | ⟨rfl, r, column, -, -, rfl⟩
  · rcases Schema.object?_cases h with ⟨rfl, r, -, rfl⟩ | ⟨-, r, -, hcategory, rfl⟩
    · exact ⟨rfl, rfl⟩
    · exact ⟨hcategory, rfl⟩
  · exact ⟨rfl, rfl⟩

theorem name_of_childIn? (hrelations : s.relations.NamedBy Relation.name) (hroutines : s.routines.NamedBy Routine.name)
    (h : container.childIn? s c name = some object) :
    object.name = name ∧ ∀ schema owner column, object = .column schema owner column → owner = container.name := by
  rcases childIn?_cases h with h | ⟨-, r, column, hr, hname, rfl⟩
  · rcases Schema.object?_cases h with ⟨-, r, hr, rfl⟩ | ⟨-, r, hr, -, rfl⟩
    · exact ⟨hroutines name r hr, fun _ _ _ hcolumn => by cases hcolumn⟩
    · exact ⟨hrelations name r hr, fun _ _ _ hcolumn => by cases hcolumn⟩
  · refine ⟨hname, fun schema owner column' hcolumn => ?_⟩
    cases hcolumn
    exact hrelations container.name r hr

/-- An owner is looked up by its name, and its column among its columns. -/
theorem exists_columnIn?_iff (hrelations : s.relations.NamedBy Relation.name) {owner? : Option Relation}
    {owner : String} {categories : List Category}
    (howner : ∀ r, owner? = some r ↔ s.relation? owner = some r ∧ r.category ∈ categories) :
    (∃ object, (if c = .column then owner?.bind (·.object? s.name name) else none) = some object) ↔
      c = .column ∧ s.HoldsColumn categories owner name := by
  simp only [Option.ite_none_right_eq_some, exists_and_left, Option.bind_eq_some_iff]
  refine and_congr_right fun _ => ⟨?_, ?_⟩
  · rintro ⟨object, r, hr, hobject⟩
    obtain ⟨hrelation, hcategory⟩ := (howner r).1 hr
    obtain ⟨hmem, hname⟩ := (hrelations.get?_iff owner r).1 hrelation
    exact ⟨r, hmem, hname, hcategory, Relation.exists_object?_iff.1 ⟨object, hobject⟩⟩
  · rintro ⟨r, hmem, hname, hcategory, hcolumn⟩
    obtain ⟨object, hobject⟩ := Relation.exists_object?_iff.2 hcolumn
    exact ⟨object, r, (howner r).2 ⟨(hrelations.get?_iff owner r).2 ⟨hmem, hname⟩, hcategory⟩, hobject⟩

theorem exists_childIn?_iff (hrelations : s.relations.NamedBy Relation.name)
    (hroutines : s.routines.NamedBy Routine.name) :
    (∃ object, container.childIn? s c name = some object) ↔ container.HoldsIn s c name := by
  cases container with
  | schema _ => exact Schema.exists_object?_iff hrelations hroutines
  | table _ owner => exact exists_columnIn?_iff hrelations fun _ => Schema.table?_eq_some_iff
  | view _ owner => exact exists_columnIn?_iff hrelations fun _ => Schema.view?_eq_some_iff

end Container

/-! ## Resolution -/

/-- What a container gives is of the category that is looked for, so that nothing is lost by looking at it again. -/
theorem Reference.resolve?_eq (cache : Cache) (r : Reference) :
    r.resolve? cache = (cache.schema? r.container.schemaName).bind (r.container.childIn? · r.category r.name) := by
  unfold resolve?
  rw [Container.child?_eq]
  cases hfound : (cache.schema? r.container.schemaName).bind (r.container.childIn? · r.category r.name) with
  | none => rfl
  | some object =>
    obtain ⟨s, -, hchild⟩ := Option.bind_eq_some_iff.1 hfound
    exact Option.filter_eq_some_iff.2 ⟨rfl, decide_eq_true (Container.category_of_childIn? hchild).1⟩

theorem Reference.resolve_eq_ok_iff {cache : Cache} {r : Reference} {object : CatalogObject} :
    r.resolve cache = .ok object ↔
      ∃ s, cache.schema? r.container.schemaName = some s ∧ r.container.childIn? s r.category r.name = some object := by
  rw [← Option.bind_eq_some_iff, ← resolve?_eq]
  unfold resolve
  cases r.resolve? cache <;> simp

/-- **A reference resolves to an object of its category, or is not found**, and the error tells what was not found
where. If the names in the maps agree with those of what they hold, it resolves if the cache holds such an object, and
the object has the name, the schema and, if it is a column, the owner that the reference gives. -/
theorem Reference.resolve_exact (cache : Cache) (r : Reference) :
    ((∃ object, r.resolve cache = .ok object ∧ object.category = r.category) ∨
        r.resolve cache = .error (.notFound r.category r.name r.container.kind r.container.name) ∧
        (SearchError.notFound r.category r.name r.container.kind r.container.name).message =
          s!"{r.category.label} '{r.name}' not found in {r.container.kind} '{r.container.name}'") ∧
      (cache.NamesAgree →
        ((∃ object, r.resolve cache = .ok object) ↔ r.IsHeld cache) ∧
        ∀ object, r.resolve cache = .ok object →
          object.name = r.name ∧ object.schema = r.container.schemaName ∧
          ∀ schema owner column, object = .column schema owner column → owner = r.container.name) := by
  refine ⟨?_, fun hnames => ⟨?_, fun object hobject => ?_⟩⟩
  · cases hresolve : r.resolve cache with
    | ok object =>
      obtain ⟨s, -, hchild⟩ := resolve_eq_ok_iff.1 hresolve
      exact .inl ⟨object, rfl, (Container.category_of_childIn? hchild).1⟩
    | error e =>
      unfold resolve at hresolve
      cases hfound : r.resolve? cache with
      | some object => simp [hfound] at hresolve
      | none =>
        exact .inr ⟨by simpa [hfound] using hresolve.symm, rfl⟩
  · -- the schema is found under its name, and what lies in it under the names that it carries
    simp only [resolve_eq_ok_iff]
    constructor
    · rintro ⟨object, s, hs, hchild⟩
      obtain ⟨hmem, hname⟩ := (hnames.schemas.get?_iff _ s).1 hs
      refine ⟨s, hmem, hname, ?_⟩
      exact (Container.exists_childIn?_iff (hnames.relations s hmem) (hnames.routines s hmem)).1 ⟨object, hchild⟩
    · rintro ⟨s, hmem, hname, hholds⟩
      obtain ⟨object, hchild⟩ :=
        (Container.exists_childIn?_iff (hnames.relations s hmem) (hnames.routines s hmem)).2 hholds
      exact ⟨object, s, (hnames.schemas.get?_iff _ s).2 ⟨hmem, hname⟩, hchild⟩
  · obtain ⟨s, hs, hchild⟩ := resolve_eq_ok_iff.1 hobject
    obtain ⟨hmem, hname⟩ := (hnames.schemas.get?_iff _ s).1 hs
    obtain ⟨hobjectName, howner⟩ := Container.name_of_childIn? (hnames.relations s hmem) (hnames.routines s hmem) hchild
    exact ⟨hobjectName, (Container.category_of_childIn? hchild).2.trans hname, howner⟩

/-- A cache with a materialized view that has a column. -/
def summaryCache : Cache :=
  Cache.empty.insert (Schema.addRelation { name := "S" }
    { name := "TOTALS", category := .materializedView, typeCode := 'S', columns := [⟨"SUM", 0, "INTEGER", false⟩] })

/-- The column, as one of a table. -/
def summaryColumn : Reference := ⟨"SUM", .table "S" "TOTALS", .column⟩

theorem Reference.resolve_summaryColumn :
    summaryCache.NamesAgree ∧ summaryColumn.IsHeld summaryCache ∧
      ∃ object, summaryColumn.resolve summaryCache = .ok object ∧ object.name = "SUM" ∧ object.schema = "S" ∧
        ∀ schema owner column, object = .column schema owner column → owner = "TOTALS" := by
  have hnames : summaryCache.NamesAgree := by decide
  obtain ⟨hheld, hobject⟩ := (resolve_exact summaryCache summaryColumn).2 hnames
  exact ⟨hnames, hheld.1 ⟨_, rfl⟩, _, rfl, hobject _ rfl⟩

/-- The same column is none of a view. -/
example : Reference.resolve summaryCache ⟨"SUM", .view "S" "TOTALS", .column⟩ =
    .error (.notFound .column "SUM" "view" "TOTALS") := by decide

end CatalogFinder
