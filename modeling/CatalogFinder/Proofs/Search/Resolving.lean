import CatalogFinder.Proofs.Catalog.Hosted
import CatalogFinder.Proofs.Search.Hosted
import CatalogFinder.Proofs.Search.Named
import CatalogFinder.Proofs.Search.Walk

/-!
# Hits resolve

Search and load read a catalog by different statements, and skip different rows of it. Still, whatever a search finds in
a filled catalog is found again in the cache that has been loaded from the catalog.

* `Reference.Resolves` : a reference names an object of its category, name and schema;
* `Stored.relation_resolves`, `column_resolves`, `routine_resolves` : references to rows resolve;
* `search_resolves` : all hits of a search do.
-/

namespace CatalogFinder

/-- The reference names an object, which has its category and its name and lies in the schema of its container. -/
def Reference.Resolves (cache : Cache) (r : Reference) : Prop :=
  ∃ object, r.resolve cache = .ok object ∧ object.category = r.category ∧ object.name = r.name ∧
    object.schema = r.container.schemaName

theorem Reference.resolves_of_childIn? {cache : Cache} {r : Reference} {kept : Schema} {object : CatalogObject}
    (hkept : cache.schema? r.container.schemaName = some kept)
    (hobject : r.container.childIn? kept r.category r.name = some object) (hname : object.name = r.name)
    (hschema : kept.name = r.container.schemaName) : r.Resolves cache := by
  obtain ⟨hcategory, hlies⟩ := Container.category_of_childIn? hobject
  exact ⟨object, resolve_eq_ok_iff.2 ⟨kept, hkept, hobject⟩, hcategory, hname, hlies.trans hschema⟩

namespace Stored

variable {s : Stored} {name : String} {defaultSchema : Option String} {filter : Filter} {fetchSize : UInt32}
  {cache : Cache}

theorem relation_resolves (h : load (s.session name defaultSchema) filter fetchSize = .ok cache) {r : RelationRow}
    (hr : r ∈ s.relations.rows)
    (hschema : ∀ a ∈ s.relations.rows, Text.trimEnd a.schema = Text.trimEnd r.schema → a.schema = r.schema)
    {reference : Reference} (hreference : r.reference? cache = some reference) : reference.Resolves cache := by
  unfold RelationRow.reference? at hreference
  split at hreference
  next c kept hcategory hkept =>
    cases hreference
    obtain ⟨relation, hrelation, hname, hrc⟩ := relation_loaded h hr hkept hcategory hschema
    have hobject : kept.object? c r.name = some (.relation kept.name relation) := by
      rw [Schema.object?_of_isTableLike (TypeCodes.isTableLike_of_categoryFor? hcategory), hrelation]
      simp [hrc]
    exact Reference.resolves_of_childIn? hkept hobject hname (name_kept h hkept)
  next => cases hreference

theorem column_resolves (h : load (s.session name defaultSchema) filter fetchSize = .ok cache) {c : ColumnRow}
    (hc : c ∈ s.columns.rows) {reference : Reference} (hreference : c.reference? cache = some reference) :
    reference.Resolves cache := by
  unfold ColumnRow.reference? Group.ownerContainer? at hreference
  cases hkept : cache.schema? (Text.trimEnd c.schema) with
  | none => simp [hkept] at hreference
  | some kept =>
    have hresolves : ∀ (owner : Relation), kept.relation? c.owner = some owner →
        ∃ column, owner.object? kept.name c.name = some (.column kept.name owner.name column) ∧
          column.name = c.name := by
      intro owner howner
      obtain ⟨column, hcolumn, hname⟩ := column_loaded h hc hkept howner
      exact ⟨column, by rw [Relation.object?, hcolumn]; rfl, hname⟩
    rw [hkept, Option.bind_some] at hreference
    -- the owner is tagged as a table if it is one, else as a view, and looked up in the same way
    cases htable : kept.table? c.owner with
    | some owner =>
      rw [htable] at hreference
      cases hreference
      obtain ⟨column, hobject, hname⟩ := hresolves owner (Option.filter_eq_some_iff.1 htable).1
      have hchild : (Container.table (Text.trimEnd c.schema) c.owner).childIn? kept .column c.name =
          some (.column kept.name owner.name column) := by
        rw [Container.childIn?, if_pos rfl, htable, Option.bind_some, hobject]
      exact Reference.resolves_of_childIn? hkept hchild hname (name_kept h hkept)
    | none =>
      cases hview : kept.view? c.owner with
      | none => simp [htable, hview] at hreference
      | some owner =>
        rw [htable, hview] at hreference
        cases hreference
        obtain ⟨column, hobject, hname⟩ := hresolves owner (Option.filter_eq_some_iff.1 hview).1
        have hchild : (Container.view (Text.trimEnd c.schema) c.owner).childIn? kept .column c.name =
            some (.column kept.name owner.name column) := by
          rw [Container.childIn?, if_pos rfl, hview, Option.bind_some, hobject]
        exact Reference.resolves_of_childIn? hkept hchild hname (name_kept h hkept)

theorem routine_resolves (h : load (s.session name defaultSchema) filter fetchSize = .ok cache) {r : RoutineRow}
    (hr : r ∈ s.routines.rows) {reference : Reference}
    (hreference : routineReference? cache (r.schema, r.name) = some reference) : reference.Resolves cache := by
  obtain ⟨kept, hkept, rfl⟩ := Option.map_eq_some_iff.1 hreference
  obtain ⟨routine, hroutine, hname⟩ := routine_loaded h hr hkept
  have hobject : kept.object? .routine r.name = some (.routine kept.name routine) := by
    rw [Schema.object?, hroutine, Option.map_some]
  exact Reference.resolves_of_childIn? hkept hobject hname (name_kept h hkept)

theorem tag_of_read {g : Group} {row : Row} {hit : Option Reference} (h : g.read cache false row = .ok hit) :
    g.tag cache row = .ok hit := h

/-- A row that is served to a group of a search and tagged is a row of the catalog. -/
theorem Findings.row_of_tag {s : Stored} {p : Params} {scope : Option String} (f : s.Findings p scope) {g : Group}
    {row : Row} (hrow : row ∈ f.rowsOf g) {r : Reference} (htag : g.tag cache row = .ok (some r)) :
    (∃ row ∈ s.relations.rows, row.reference? cache = some r) ∨
      (∃ row ∈ s.columns.rows, row.reference? cache = some r) ∨
      ∃ row ∈ s.routines.rows, routineReference? cache (row.schema, row.name) = some r := by
  cases g with
  | tableLike =>
    obtain ⟨relation, hrelation, rfl⟩ := List.mem_map.1 hrow
    rw [tag_of_read (read_relation cache relation false)] at htag
    exact .inl ⟨relation, ((f.mem_relations relation).1 hrelation).1, Except.ok.inj htag⟩
  | columns =>
    obtain ⟨column, hcolumn, rfl⟩ := List.mem_map.1 hrow
    rw [tag_of_read (read_column cache column false)] at htag
    exact .inr (.inl ⟨column, ((f.mem_columns column).1 hcolumn).2.1, Except.ok.inj htag⟩)
  | routines =>
    obtain ⟨⟨schema, name⟩, hroutine, rfl⟩ := List.mem_map.1 hrow
    rw [tag_of_read (read_routine cache (schema, name) false)] at htag
    obtain ⟨-, -, overload, hoverload, rfl, rfl, -⟩ := (f.mem_routines schema name).1 hroutine
    exact .inr (.inr ⟨overload, hoverload, Except.ok.inj htag⟩)

/-- What a search finds in a filled catalog is a reference to one of its rows. -/
theorem hit_of_search (s : Stored) (name : String) (defaultSchema : Option String) (cancelAfter : Option Nat)
    (cache : Cache) (fetchSize : UInt32) (p : Params) {hits : List Reference}
    (h : (search cache { s.session name defaultSchema with cancelAfter := cancelAfter } fetchSize p).result = .ok hits)
    {r : Reference} (hr : r ∈ hits) :
    (∃ row ∈ s.relations.rows, row.reference? cache = some r) ∨
      (∃ row ∈ s.columns.rows, row.reference? cache = some r) ∨
      ∃ row ∈ s.routines.rows, routineReference? cache (row.schema, row.name) = some r := by
  obtain ⟨hp, hrun⟩ := Search.runPlan_of_search h
  obtain ⟨e, he, row, hrow, htag⟩ := Search.mem_hitsOn_steps
    (Search.hits_of_runPlan (Search.maxResults_pos hp) hrun r hr)
  obtain ⟨g, hg, rfl⟩ := List.mem_map.1 he
  obtain ⟨f, hanswers, -⟩ := s.exists_findings p (p.scopeWithin defaultSchema)
  refine f.row_of_tag ?_ htag
  have hreply : row ∈ (s.tables.reply (g.request p (p.scopeWithin defaultSchema))).rows := hrow
  rcases hanswers g hg with hok | ⟨-, herror⟩
  · rw [Tables.reply, hok] at hreply
    exact hreply
  · rw [Tables.reply, herror] at hreply
    cases hreply

end Stored

/-- **Whatever a search finds in a filled catalog resolves in the cache that is loaded from it**, when no two schemas of
relations are told apart by padding alone. -/
theorem search_resolves (additions : List Addition) (name : String) (defaultSchema : Option String) (filter : Filter)
    (loadSize searchSize : UInt32) (cancelAfter : Option Nat) (p : Params)
    (hschemas : ∀ a ∈ (Stored.ofAdditions additions).relations.rows,
      ∀ b ∈ (Stored.ofAdditions additions).relations.rows,
        Text.trimEnd a.schema = Text.trimEnd b.schema → a.schema = b.schema) :
    ∃ cache, load (HostedCatalog.session ⟨name, defaultSchema, Tables.filled additions, false⟩) filter loadSize =
        .ok cache ∧
      ∀ hits, (search cache
          { HostedCatalog.session ⟨name, defaultSchema, Tables.filled additions, false⟩ with cancelAfter := cancelAfter }
          searchSize p).result = .ok hits →
        ∀ r ∈ hits, r.Resolves cache := by
  rw [Tables.filled_eq]
  obtain ⟨cache, hload⟩ := (Stored.ofAdditions additions).load_ok name defaultSchema filter loadSize
  refine ⟨cache, hload, ?_⟩
  intro hits hsearch r hr
  rcases Stored.hit_of_search _ name defaultSchema cancelAfter cache searchSize p hsearch hr with
    ⟨row, hrow, hreference⟩ | ⟨row, hrow, hreference⟩ | ⟨row, hrow, hreference⟩
  · exact Stored.relation_resolves hload hrow (fun a ha => hschemas a ha row hrow) hreference
  · exact Stored.column_resolves hload hrow hreference
  · exact Stored.routine_resolves hload hrow hreference

/-- Padded schema names, a view with a column and a procedure. -/
def paddedAdditions : List Addition :=
  [.view "S   " "V" "select VAT from S.T", .column "S" "V" "VAT" 0 "INTEGER" false, .routine "S  " "P" "P_1" none,
    .relation "R" "T" 'T']

/-- The view and its column are found and resolve, though they are stored under two spellings of their schema. -/
theorem search_paddedAdditions_resolves :
    (∀ a ∈ (Stored.ofAdditions paddedAdditions).relations.rows,
      ∀ b ∈ (Stored.ofAdditions paddedAdditions).relations.rows,
        Text.trimEnd a.schema = Text.trimEnd b.schema → a.schema = b.schema) ∧
    ∃ cache, load (HostedCatalog.session ⟨"padded", none, Tables.filled paddedAdditions, false⟩) .acceptAll 1000 =
        .ok cache ∧
      (search cache
          { HostedCatalog.session ⟨"padded", none, Tables.filled paddedAdditions, false⟩ with cancelAfter := some 3 }
          1000 allWithV).result = .ok [⟨"V", .schema "S", .view⟩, ⟨"VAT", .view "S" "V", .column⟩] ∧
      ∀ r ∈ [⟨"V", .schema "S", .view⟩, ⟨"VAT", .view "S" "V", .column⟩], Reference.Resolves cache r := by
  have hschemas : ∀ a ∈ (Stored.ofAdditions paddedAdditions).relations.rows,
      ∀ b ∈ (Stored.ofAdditions paddedAdditions).relations.rows,
        Text.trimEnd a.schema = Text.trimEnd b.schema → a.schema = b.schema := by
    decide
  have hhits : (load (HostedCatalog.session ⟨"padded", none, Tables.filled paddedAdditions, false⟩) .acceptAll
      1000).map (fun cache => (search cache
        { HostedCatalog.session ⟨"padded", none, Tables.filled paddedAdditions, false⟩ with cancelAfter := some 3 }
        1000 allWithV).result) = .ok (.ok [⟨"V", .schema "S", .view⟩, ⟨"VAT", .view "S" "V", .column⟩]) := by
    decide +kernel
  obtain ⟨cache, hload, hresolves⟩ :=
    search_resolves paddedAdditions "padded" none .acceptAll 1000 1000 (some 3) allWithV hschemas
  rw [hload] at hhits
  have hfound := Except.ok.inj hhits
  exact ⟨hschemas, cache, hload, hfound, hresolves _ hfound⟩

end CatalogFinder
