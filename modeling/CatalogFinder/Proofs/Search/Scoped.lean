import CatalogFinder.Catalog.Load
import CatalogFinder.Proofs.Search.Uncut

/-!
# Searching in one schema

A search in one schema asks the catalog for rows that are stored under its name, and a search everywhere for all of
them. So the hits of the first are those of the second whose container lies in the schema, in the same order, if rows
are stored under the names that the cache knows them by. Padding stands in the way: it is taken off the name of a
stored schema before that is looked up in the cache, but not before it is compared with the schema to search in.

* `Params.within` : the search in one schema;
* `Stored.wantedRelations_scoped`, `wantedColumns_scoped`, `wantedRoutines_scoped` : what is asked for in one schema;
* `Stored.references_scoped` : the references to these rows;
* `search_scoped` : the hits in one schema, `search_paddedScope` : they are missed where the schema is padded.
-/

namespace CatalogFinder

def Params.within (p : Params) (schema : String) : Params := { p with scope := some schema }

/-- Where images are kept as what they are images of, it does not matter which are picked. -/
theorem filterMap_filter_eq {α β : Type} {f : α → Option β} {keep : α → Bool} {keepImage : β → Bool} {l : List α}
    (h : ∀ a ∈ l, ∀ b, f a = some b → keepImage b = keep a) :
    (l.filter keep).filterMap f = (l.filterMap f).filter keepImage := by
  induction l with
  | nil => rfl
  | cons a l ih =>
    have hrest := ih fun a ha => h a (List.mem_cons_of_mem _ ha)
    rw [List.filter_cons]
    cases hf : f a with
    | none => cases keep a <;> simp [hf, hrest]
    | some b =>
      have hkeep := h a List.mem_cons_self b hf
      cases hka : keep a <;> simp [hf, hkeep, hka, hrest]

namespace Stored

variable (s : Stored) (p : Params) (schema mask : String)

/-! ## Rows of one schema -/

theorem inScope_some (row : String) : InScope (some schema) row ↔ row = schema ∧ InScope none row := by
  simp [InScope]

theorem wantedRelations_scoped (hmask : Mask.StartsPlain mask) (codes : List Char) (definitions : Bool) :
    s.wantedRelations (some schema) mask codes definitions =
      (s.wantedRelations none mask codes definitions).filter (·.schema = schema) := by
  have hpicks : ∀ r ∈ s.relations.rows, s.picksRelation (some schema) mask codes definitions r =
      (decide (r.schema = schema) && s.picksRelation none mask codes definitions r) := by
    intro r _
    rw [Bool.eq_iff_iff, Bool.and_eq_true, decide_eq_true_iff, picksRelation_iff, picksRelation_iff, WantsRelation,
      WantsRelation, inScope_some, Mask.finds_iff_fits hmask, Mask.finds_iff_fits hmask, and_assoc]
  rw [wantedRelations, wantedRelations, ← sortedBy_filter, List.filter_filter, List.filter_congr hpicks]
  intro a ha b hb
  exact s.relations_eq_of_cmp a (List.mem_filter.1 ha).1 b (List.mem_filter.1 hb).1

theorem wantedColumns_scoped :
    s.wantedColumns (some schema) mask = (s.wantedColumns none mask).filter (·.schema = schema) := by
  have hpicks : ∀ c ∈ s.columns.rows,
      (Tables.inScope (some schema) (.text c.schema) && (Value.text c.name).isLike mask) =
        (decide (c.schema = schema) && (Tables.inScope none (.text c.schema) && (Value.text c.name).isLike mask)) := by
    intro c _
    simp [Tables.inScope]
  rw [wantedColumns, wantedColumns, ← sortedBy_filter, List.filter_filter, List.filter_congr hpicks]
  intro a ha b hb
  exact s.columns_eq_of_cmp a (List.mem_filter.1 ha).1 b (List.mem_filter.1 hb).1

theorem wantedRoutines_scoped (definitions : Bool) : s.wantedRoutines (some schema) mask definitions =
    (s.wantedRoutines none mask definitions).filter (·.1 = schema) := by
  have hpicks : ∀ r ∈ s.routines.rows, picksRoutine (some schema) mask definitions r =
      (decide (r.schema = schema) && picksRoutine none mask definitions r) := by
    intro r _
    simp [picksRoutine, Tables.inScope]
  rw [wantedRoutines, wantedRoutines, ← eraseDups_filter, List.filter_map, List.filter_congr hpicks,
    ← List.filter_filter, sortedBy_filter]
  · rfl
  · intro a ha b hb
    exact s.routines_eq_of_cmp a (List.mem_filter.1 ha).1 b (List.mem_filter.1 hb).1

/-! ## References in one schema -/

variable {s p schema}

/-- The references to what a search in one schema asks for are those to what it asks for everywhere, if the rows of the
schema are stored under its name. -/
theorem references_scoped (hnames : s.SchemasAre fun stored => Text.trimEnd stored = schema ↔ stored = schema)
    (hmask : Mask.StartsPlain p.effectiveMask) (cache : Cache) :
    (s.findings (p.within schema) (some schema)).references cache =
      ((s.findings p none).references cache).filter (·.container.schemaName = schema) := by
  have hrelations : (s.findings (p.within schema) (some schema)).relations =
      (s.findings p none).relations.filter (·.schema = schema) := by
    rw [relations_findings, relations_findings]
    exact s.wantedRelations_scoped schema p.effectiveMask hmask _ _
  have hcolumns : (s.findings (p.within schema) (some schema)).columns =
      (s.findings p none).columns.filter (·.schema = schema) := by
    rw [columns_findings, columns_findings]
    by_cases h : .column ∈ p.categories
    · rw [if_pos h, ← wantedColumns_scoped]
      exact if_pos h
    · rw [if_neg h]
      exact if_neg h
  have hroutines : (s.findings (p.within schema) (some schema)).routines =
      (s.findings p none).routines.filter (·.1 = schema) := by
    rw [routines_findings, routines_findings]
    by_cases h : .routine ∈ p.categories
    · rw [if_pos h, ← wantedRoutines_scoped]
      exact if_pos h
    · rw [if_neg h]
      exact if_neg h
  rw [Findings.references, Findings.references, List.filter_append, List.filter_append, hrelations, hcolumns,
    hroutines]
  -- a reference carries the trimmed name, and the rows of the schema are those that are trimmed to its name
  refine congrArg₂ _ (filterMap_filter_eq ?_) (congrArg₂ _ (filterMap_filter_eq ?_) (filterMap_filter_eq ?_))
  · intro r hr reference hreference
    have hname := hnames.relations r (((s.findings p none).mem_relations r).1 hr).1
    rw [(RelationRow.of_reference? hreference).2.1, decide_eq_decide]
    exact hname
  · intro c hc reference hreference
    have hname := hnames.columns c (((s.findings p none).mem_columns c).1 hc).2.1
    rw [(ColumnRow.of_reference? hreference).2.1, decide_eq_decide]
    exact hname
  · rintro ⟨rowSchema, name⟩ hroutine reference hreference
    obtain ⟨-, -, r, hr, rfl, rfl, -⟩ := ((s.findings p none).mem_routines rowSchema name).1 hroutine
    have hname := hnames.routines r hr
    rw [(of_routineReference? hreference).2.1, decide_eq_decide]
    exact hname

theorem Refuses.of_scoped (h : s.Refuses (p.within schema) (some schema)) : s.Refuses p none := by
  obtain ⟨hlong, g, hg, hcompares⟩ := h
  refine ⟨hlong, g, hg, ?_⟩
  cases g with
  | tableLike =>
    obtain ⟨r, hr⟩ := s.exists_of_comparesRelations _ _ _ _ hcompares
    exact s.comparesRelations_of_mem _ _ _ hr
  | columns =>
    obtain ⟨c, hc, -⟩ := List.any_eq_true.1 hcompares
    exact List.any_eq_true.2 ⟨c, hc, rfl⟩
  | routines =>
    obtain ⟨r, hr, -⟩ := List.any_eq_true.1 hcompares
    exact List.any_eq_true.2 ⟨r, hr, rfl⟩

end Stored

/-- **The hits in one schema are the hits everywhere whose container lies in the schema**, in the same order, if no row
of the schema is stored under a padded name and the mask starts with plain characters. -/
theorem search_scoped (additions : List Addition) (name : String) (defaultSchema : Option String) (cache : Cache)
    (fetchSize : UInt32) (p : Params) (schema : String) (hp : p.validate = .ok ()) (hscope : p.scope = none)
    (hglobal : p.globalSearch = true) (hcap : (Tables.filled additions).rowCount < p.maxResults.toNat)
    (hnames : ∀ a ∈ additions, Text.trimEnd a.schemaName = schema ↔ a.schemaName = schema)
    (hmask : Mask.StartsPlain p.effectiveMask) (hits : List Reference)
    (h : (search cache (HostedCatalog.session ⟨name, defaultSchema, Tables.filled additions, false⟩) fetchSize
      p).result = .ok hits) :
    (search cache (HostedCatalog.session ⟨name, defaultSchema, Tables.filled additions, false⟩) fetchSize
        (p.within schema)).result = .ok (hits.filter (·.container.schemaName = schema)) := by
  rw [Tables.filled_eq] at hcap h ⊢
  have hnowhere : p.scopeWithin defaultSchema = none := by rw [Params.scopeWithin, hscope, hglobal]; rfl
  have hstored := Stored.schemasAre_ofAdditions (fun stored => Text.trimEnd stored = schema ↔ stored = schema) hnames
  have hthere : (p.within schema).scopeWithin defaultSchema = some schema := rfl
  have hvalid : (p.within schema).validate = .ok () := hp
  rcases Stored.search_uncut name defaultSchema cache fetchSize hp hcap hnowhere with ⟨hserved, hall⟩ | ⟨-, hrefused⟩
  · rcases Stored.search_uncut name defaultSchema cache fetchSize hvalid hcap hthere with ⟨-, hscoped⟩ | ⟨hrefuses, -⟩
    · rw [hall] at h
      cases h
      rw [hscoped, Stored.references_scoped hstored hmask]
    · exact absurd hrefuses.of_scoped hserved
  · rw [hrefused] at h
    cases h

/-- A catalog with a view and its column, and a routine in a schema that is padded. -/
def twoSchemas : HostedCatalog where
  name := "two"
  tables := Tables.filled [.view "S" "V1" "select 1", .column "S" "V1" "VALUE" 0 "INTEGER" true,
    .routine "R   " "VISIT" "VISIT_1" none]

def twoSchemasCache : Cache :=
  (Cache.empty.insert { name := "R" }).insert
    (Schema.addRelation { name := "S" } { name := "V1", category := .view, typeCode := 'V' })

def anyWithV : Params where
  mask := "V"
  objectTypes := [.category .view, .category .column, .category .routine]
  globalSearch := true

theorem search_twoSchemas_scoped :
    (search twoSchemasCache twoSchemas.session 1000 anyWithV).result =
      .ok [⟨"V1", .schema "S", .view⟩, ⟨"VALUE", .view "S" "V1", .column⟩, ⟨"VISIT", .schema "R", .routine⟩] ∧
    (search twoSchemasCache twoSchemas.session 1000 (anyWithV.within "S")).result =
      .ok ([⟨"V1", .schema "S", .view⟩, ⟨"VALUE", .view "S" "V1", .column⟩, ⟨"VISIT", .schema "R", .routine⟩].filter
        (·.container.schemaName = "S")) := by
  have hall : (search twoSchemasCache twoSchemas.session 1000 anyWithV).result =
      .ok [⟨"V1", .schema "S", .view⟩, ⟨"VALUE", .view "S" "V1", .column⟩, ⟨"VISIT", .schema "R", .routine⟩] := by
    decide +kernel
  have hmask : Mask.StartsPlain anyWithV.effectiveMask := by
    have hstart : Mask.start anyWithV.effectiveMask = ['V'] := by decide
    intro c hc
    rw [hstart, List.mem_singleton] at hc
    subst hc
    exact ⟨rfl, by decide⟩
  exact ⟨hall, search_scoped _ "two" none twoSchemasCache 1000 anyWithV "S" rfl rfl rfl (by decide) (by decide) hmask _
    hall⟩

/-! ## A padded schema -/

/-- A catalog with a table whose schema is stored with padding. -/
def paddedCatalog : HostedCatalog := ⟨"padded", none, Tables.filled [.relation "APP     " "ACCOUNTS" 'T'], false⟩

/-- The cache of this catalog, where the schema has no padding. -/
def paddedCache : Cache :=
  Cache.empty.insert
    (Schema.addRelation { name := "APP" } { name := "ACCOUNTS", category := .table, typeCode := 'T' })

def tablesWithA : Params where
  mask := "A"
  objectTypes := [.category .table]
  globalSearch := true

/-- The table is found everywhere, as one of its schema, but not in its schema. -/
theorem search_paddedScope :
    tablesWithA.validate = .ok () ∧ load paddedCatalog.session .acceptAll 1000 = .ok paddedCache ∧
    (search paddedCache paddedCatalog.session 1000 tablesWithA).result =
      .ok [⟨"ACCOUNTS", .schema "APP", .table⟩] ∧
    (search paddedCache paddedCatalog.session 1000 (tablesWithA.within "APP")).result = .ok [] := by
  decide +kernel

end CatalogFinder
