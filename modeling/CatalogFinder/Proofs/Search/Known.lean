import CatalogFinder.Proofs.Catalog.Hosted
import CatalogFinder.Proofs.NameMap
import CatalogFinder.Proofs.Search.Uncut

/-!
# A search finds what the cache knows

A load and a search read a catalog by different statements. Where no schema is stored with padding, they agree on what
there is: a search everywhere that is not cut short returns the references to the cached relations, columns and routines
that it asks for, each of them once.

* `Cache.offers` : the references to everything in a cache that a search asks for, read off the cache alone;
* `Stored.mem_references_iff_mem_offers` : the references to rows are those to what is cached;
* `Stored.nodup_references`, `nodup_offers` : neither has repetitions;
* `search_known` : the hits are what the cache offers, `search_longMask_offered` : a long mask is refused.
-/

namespace CatalogFinder

/-! ## What a cache offers -/

/-- The container of the columns of a relation, if they can be searched for. -/
def Relation.columnsIn? (schema : String) (r : Relation) : Option Container :=
  match r.category with
  | .table => some (.table schema r.name)
  | .materializedView => some (.table schema r.name)
  | .view => some (.view schema r.name)
  | _ => none

/-- The references to a relation and its columns, as far as a search asks for them. -/
def Relation.offers (p : Params) (schema : String) (r : Relation) : List Reference :=
  (if r.category ∈ p.categories ∧ Mask.Fits p.effectiveMask r.name then [⟨r.name, .schema schema, r.category⟩]
    else []) ++
    (r.columnsIn? schema).toList.flatMap fun container =>
      (r.columns.filter fun c => .column ∈ p.categories ∧ Mask.Fits p.effectiveMask c.name).map
        fun c => ⟨c.name, container, .column⟩

def Routine.offers (p : Params) (schema : String) (r : Routine) : List Reference :=
  if .routine ∈ p.categories ∧ Mask.Fits p.effectiveMask r.name then [⟨r.name, .schema schema, .routine⟩] else []

/-- The references to what a schema holds, as far as a search asks for it. -/
def Schema.offers (p : Params) (s : Schema) : List Reference :=
  s.relations.values.flatMap (·.offers p s.name) ++ s.routines.values.flatMap (·.offers p s.name)

/-- The references to everything in the cache that a search asks for. -/
def Cache.offers (p : Params) (c : Cache) : List Reference := c.schemas.values.flatMap (·.offers p)

section Offers
variable {p : Params} {schema : String} {reference : Reference}

theorem Relation.mem_offers {r : Relation} : reference ∈ r.offers p schema ↔
    (r.category ∈ p.categories ∧ Mask.Fits p.effectiveMask r.name) ∧ reference = ⟨r.name, .schema schema, r.category⟩ ∨
      ∃ container, r.columnsIn? schema = some container ∧ ∃ c ∈ r.columns,
        (.column ∈ p.categories ∧ Mask.Fits p.effectiveMask c.name) ∧ reference = ⟨c.name, container, .column⟩ := by
  rw [offers, List.mem_append]
  refine or_congr ?_ ?_
  · split
    next h => rw [List.mem_singleton, and_iff_right h]
    next h => simp [h]
  · simp only [List.mem_flatMap, Option.mem_toList, List.mem_map, List.mem_filter, decide_eq_true_eq]
    constructor
    · rintro ⟨container, hcontainer, c, ⟨hc, hwanted⟩, rfl⟩
      exact ⟨container, hcontainer, c, hc, hwanted, rfl⟩
    · rintro ⟨container, hcontainer, c, hc, hwanted, rfl⟩
      exact ⟨container, hcontainer, c, ⟨hc, hwanted⟩, rfl⟩

theorem Routine.mem_offers {r : Routine} : reference ∈ r.offers p schema ↔
    (.routine ∈ p.categories ∧ Mask.Fits p.effectiveMask r.name) ∧ reference = ⟨r.name, .schema schema, .routine⟩ := by
  rw [offers]
  split
  next h => rw [List.mem_singleton, and_iff_right h]
  next h => simp [h]

theorem Cache.mem_offers {c : Cache} : reference ∈ c.offers p ↔ ∃ schema kept, c.schema? schema = some kept ∧
    ((∃ n r, kept.relation? n = some r ∧ reference ∈ r.offers p kept.name) ∨
      ∃ n r, kept.routine? n = some r ∧ reference ∈ r.offers p kept.name) := by
  simp only [offers, Schema.offers, List.mem_flatMap, List.mem_append, NameMap.mem_values_iff]
  constructor
  · rintro ⟨kept, ⟨schema, hkept⟩, ⟨r, ⟨n, hr⟩, h⟩ | ⟨r, ⟨n, hr⟩, h⟩⟩
    · exact ⟨schema, kept, hkept, .inl ⟨n, r, hr, h⟩⟩
    · exact ⟨schema, kept, hkept, .inr ⟨n, r, hr, h⟩⟩
  · rintro ⟨schema, kept, hkept, ⟨n, r, hr, h⟩ | ⟨n, r, hr, h⟩⟩
    · exact ⟨kept, ⟨schema, hkept⟩, .inl ⟨r, ⟨n, hr⟩, h⟩⟩
    · exact ⟨kept, ⟨schema, hkept⟩, .inr ⟨r, ⟨n, hr⟩, h⟩⟩

end Offers

/-- The columns of a row are tagged with the container of the columns of its owner. -/
theorem ownerContainer?_eq_some_iff {cache : Cache} {schema owner : String} {container : Container}
    (hname : ∀ kept r, cache.schema? schema = some kept → kept.relation? owner = some r → r.name = owner) :
    Group.ownerContainer? cache schema owner = some container ↔ ∃ kept r, cache.schema? schema = some kept ∧
      kept.relation? owner = some r ∧ r.columnsIn? schema = some container := by
  unfold Group.ownerContainer?
  cases hkept : cache.schema? schema with
  | none => simp
  | some kept =>
    cases hr : kept.relation? owner with
    | none => simp [Schema.table?, Schema.view?, hr]
    | some r =>
      have hrname : r.name = owner := hname kept r hkept hr
      cases hcategory : r.category <;>
        simp [Schema.table?, Schema.view?, hr, Relation.columnsIn?, hcategory, hrname]

namespace Stored

variable {s : Stored} {name : String} {defaultSchema : Option String} {filter : Filter} {fetchSize : UInt32}
  {cache : Cache} {p : Params}

/-! ## Findings without definitions -/

section Findings
variable (f : s.Findings p none) (hdefinitions : p.inDefinitions = false) {reference : Reference}
include hdefinitions

theorem Findings.mem_relations_iff (r : RelationRow) : r ∈ f.relations ↔ r ∈ s.relations.rows ∧
    (∃ c ∈ p.categories, TypeCodes.standard.categoryFor? r.code.toString = some c) ∧
      Mask.Fits p.effectiveMask r.name := by
  rw [f.mem_relations, hdefinitions]
  simp [InScope, Mask.Finds]

theorem Findings.mem_routines_iff (schema name : String) : (schema, name) ∈ f.routines ↔ .routine ∈ p.categories ∧
    Mask.Fits p.effectiveMask name ∧ ∃ r ∈ s.routines.rows, r.schema = schema ∧ r.name = name := by
  rw [f.mem_routines, hdefinitions]
  constructor
  · rintro ⟨hwanted, -, r, hr, hschema, hname, hfits | ⟨hfalse, -⟩⟩
    · exact ⟨hwanted, hfits, r, hr, hschema, hname⟩
    · cases hfalse
  · rintro ⟨hwanted, hfits, r, hr, hschema, hname⟩
    exact ⟨hwanted, by simp [InScope], r, hr, hschema, hname, .inl hfits⟩

omit hdefinitions in
theorem Findings.mem_columns_iff (c : ColumnRow) : c ∈ f.columns ↔ .column ∈ p.categories ∧ c ∈ s.columns.rows ∧
    Mask.Fits p.effectiveMask c.name := by
  rw [f.mem_columns]
  simp [InScope]

end Findings

/-! ## The same references -/

section Known
variable (hload : load (s.session name defaultSchema) filter fetchSize = .ok cache)
  (hnames : s.SchemasAre fun schema => Text.trimEnd schema = schema) (hdefinitions : p.inDefinitions = false)
  (f : s.Findings p none) {reference : Reference}

include hload hnames hdefinitions

theorem mem_offers_of_relation {r : RelationRow} (hr : r ∈ f.relations)
    (h : r.reference? cache = some reference) : reference ∈ cache.offers p := by
  obtain ⟨hrow, ⟨wanted, hwanted, hcategory⟩, hfits⟩ := (f.mem_relations_iff hdefinitions r).1 hr
  unfold RelationRow.reference? at h
  split at h
  next c kept hc hkept =>
    cases h
    rw [hc] at hcategory
    cases hcategory
    have hschema : ∀ a ∈ s.relations.rows, Text.trimEnd a.schema = Text.trimEnd r.schema → a.schema = r.schema := by
      intro a ha heq
      rwa [hnames.relations a ha, hnames.relations r hrow] at heq
    obtain ⟨relation, hrelation, hname, hrc⟩ := relation_loaded hload hrow hkept hc hschema
    refine Cache.mem_offers.2 ⟨_, kept, hkept, .inl ⟨_, relation, hrelation, Relation.mem_offers.2 (.inl ⟨?_, ?_⟩)⟩⟩
    · rw [hrc, hname]
      exact ⟨hwanted, hfits⟩
    · rw [hname, hrc, name_kept hload hkept]
  next => cases h

omit hnames hdefinitions in
theorem mem_offers_of_column {c : ColumnRow} (hc : c ∈ f.columns) (h : c.reference? cache = some reference) :
    reference ∈ cache.offers p := by
  obtain ⟨hwanted, hrow, hfits⟩ := (f.mem_columns_iff c).1 hc
  obtain ⟨container, hcontainer, rfl⟩ := Option.map_eq_some_iff.1 h
  obtain ⟨kept, r, hkept, hr, hcolumns⟩ := (ownerContainer?_eq_some_iff fun kept r hkept hr =>
    (relation_origin hload hkept hr).1).1 hcontainer
  have hmem : c.column ∈ r.columns := by
    rw [(relation_origin hload hkept hr).2.1]
    exact List.mem_map_of_mem (mem_columnsOf.2 ⟨hrow, rfl, rfl⟩)
  refine Cache.mem_offers.2 ⟨_, kept, hkept, .inl ⟨_, r, hr, Relation.mem_offers.2 (.inr ⟨container, ?_, _, hmem, ?_⟩)⟩⟩
  · rw [name_kept hload hkept]
    exact hcolumns
  · exact ⟨⟨hwanted, hfits⟩, rfl⟩

omit hnames in
theorem mem_offers_of_routine {schema routine : String} (hroutine : (schema, routine) ∈ f.routines)
    (h : routineReference? cache (schema, routine) = some reference) : reference ∈ cache.offers p := by
  obtain ⟨hwanted, hfits, row, hrow, rfl, rfl⟩ := (f.mem_routines_iff hdefinitions schema routine).1 hroutine
  obtain ⟨kept, hkept, rfl⟩ := Option.map_eq_some_iff.1 h
  obtain ⟨r, hr, hname⟩ := routine_loaded hload hrow hkept
  refine Cache.mem_offers.2 ⟨_, kept, hkept, .inr ⟨_, r, hr, Routine.mem_offers.2 ⟨?_, ?_⟩⟩⟩
  · rw [hname]
    exact ⟨hwanted, hfits⟩
  · rw [hname, name_kept hload hkept]

omit hnames in
theorem mem_references_of_offers (h : reference ∈ cache.offers p) : reference ∈ f.references cache := by
  obtain ⟨schema, kept, hkept, ⟨n, r, hr, h⟩ | ⟨n, r, hr, h⟩⟩ := Cache.mem_offers.1 h
  · obtain ⟨hname, hcolumns, row, hrow, hschema, hrowName, hcategory⟩ := relation_origin hload hkept hr
    rcases Relation.mem_offers.1 h with
      ⟨⟨hwanted, hfits⟩, rfl⟩ | ⟨container, hcontainer, column, hcolumn, ⟨hwanted, hfits⟩, rfl⟩
    · refine f.mem_references_iff.2 (.inl ⟨row, (f.mem_relations_iff hdefinitions row).2
        ⟨hrow, ⟨_, hwanted, hcategory⟩, ?_⟩, ?_⟩)
      · rwa [hrowName, ← hname]
      · unfold RelationRow.reference?
        rw [hcategory, hschema, hkept, hrowName, hname, name_kept hload hkept]
    · rw [hcolumns] at hcolumn
      obtain ⟨c, hc, rfl⟩ := List.mem_map.1 hcolumn
      obtain ⟨hcrow, hcschema, hcowner⟩ := mem_columnsOf.1 hc
      refine f.mem_references_iff.2 (.inr (.inl ⟨c, (f.mem_columns_iff c).2 ⟨hwanted, hcrow, hfits⟩, ?_⟩))
      rw [name_kept hload hkept] at hcontainer
      refine Option.map_eq_some_iff.2 ⟨container, ?_, rfl⟩
      rw [hcschema, hcowner, ownerContainer?_eq_some_iff fun kept r hkept hr => (relation_origin hload hkept hr).1]
      exact ⟨kept, r, hkept, hr, hcontainer⟩
  · obtain ⟨hname, row, hrow, hschema, hrowName⟩ := routine_origin hload hkept hr
    obtain ⟨⟨hwanted, hfits⟩, rfl⟩ := Routine.mem_offers.1 h
    refine f.mem_references_iff.2 (.inr (.inr ⟨(row.schema, row.name), (f.mem_routines_iff hdefinitions _ _).2
      ⟨hwanted, ?_, row, hrow, rfl, rfl⟩, ?_⟩))
    · rwa [hrowName, ← hname]
    · rw [routineReference?, hschema, hkept, Option.map_some, hrowName, hname, name_kept hload hkept]

/-- What the cache offers is what is found in the catalog. -/
theorem mem_references_iff_mem_offers : reference ∈ f.references cache ↔ reference ∈ cache.offers p := by
  refine ⟨fun h => ?_, mem_references_of_offers hload hdefinitions f⟩
  rcases f.mem_references_iff.1 h with ⟨r, hr, h⟩ | ⟨c, hc, h⟩ | ⟨r, hr, h⟩
  · exact mem_offers_of_relation hload hnames hdefinitions f hr h
  · exact mem_offers_of_column hload f hc h
  · exact mem_offers_of_routine hload hdefinitions f hr h

end Known

/-! ## No repetitions -/

theorem ne_of_precedes {a b : String × String} (h : Precedes a b) : a ≠ b := by
  rintro rfl
  obtain h | ⟨-, h⟩ := h
  · exact String.lt_irrefl _ h
  · exact String.lt_irrefl _ h

/-- Images that tell the keys of what they are images of do not repeat where keys do not. -/
theorem nodup_filterMap_of_key {α β κ : Type} {f : α → Option β} (key : α → κ) {l : List α}
    (hl : l.Pairwise fun a b => key a ≠ key b)
    (hkey : ∀ a ∈ l, ∀ b ∈ l, ∀ x, f a = some x → f b = some x → key a = key b) : (l.filterMap f).Nodup := by
  refine List.pairwise_filterMap.2 (hl.imp_of_mem ?_)
  rintro a b ha hb hne x hx _ hx' rfl
  exact hne (hkey a ha b hb x hx hx')

section Nodup
variable (hnames : s.SchemasAre fun schema => Text.trimEnd schema = schema) (f : s.Findings p none)

include hnames

theorem nodup_relationReferences : (f.relations.filterMap (·.reference? cache)).Nodup := by
  refine nodup_filterMap_of_key RelationRow.key (f.relations_sorted.imp ne_of_precedes) ?_
  intro a ha b hb reference hreference hreference'
  have hrowA : Text.trimEnd a.schema = a.schema := hnames.relations a ((f.mem_relations a).1 ha).1
  have hrowB : Text.trimEnd b.schema = b.schema := hnames.relations b ((f.mem_relations b).1 hb).1
  obtain ⟨hnameA, hcontainerA, -⟩ := RelationRow.of_reference? hreference
  obtain ⟨hnameB, hcontainerB, -⟩ := RelationRow.of_reference? hreference'
  have hschema : a.schema = b.schema := by
    rw [hcontainerA, hrowA, hrowB] at hcontainerB
    exact Container.schema.inj hcontainerB
  exact Prod.ext hschema (hnameA.symm.trans hnameB)

theorem nodup_columnReferences : (f.columns.filterMap (·.reference? cache)).Nodup := by
  have hcolumn : ∀ c ∈ f.columns, c ∈ s.columns.rows := fun c hc => ((f.mem_columns c).1 hc).2.1
  refine nodup_filterMap_of_key ColumnRow.key (f.columns_nodup.imp_of_mem ?_) ?_
  · intro a b ha hb hne hkey
    exact hne (s.columns.eq_of_key (hcolumn a ha) (hcolumn b hb) hkey)
  · intro a ha b hb reference hreference hreference'
    obtain ⟨hnameA, hschemaA, hownerA, -⟩ := ColumnRow.of_reference? hreference
    obtain ⟨hnameB, hschemaB, hownerB, -⟩ := ColumnRow.of_reference? hreference'
    have hschema : a.schema = b.schema := by
      rw [hschemaA, hnames.columns a (hcolumn a ha), hnames.columns b (hcolumn b hb)] at hschemaB
      exact hschemaB
    exact Prod.ext hschema (Prod.ext (hownerA.symm.trans hownerB) (hnameA.symm.trans hnameB))

theorem nodup_routineReferences : (f.routines.filterMap (routineReference? cache)).Nodup := by
  refine nodup_filterMap_of_key id (f.routines_sorted.imp ne_of_precedes) ?_
  rintro ⟨schemaA, nameA⟩ ha ⟨schemaB, nameB⟩ hb reference hreference hreference'
  obtain ⟨-, -, rowA, hrowA, rfl, rfl, -⟩ := (f.mem_routines schemaA nameA).1 ha
  obtain ⟨-, -, rowB, hrowB, rfl, rfl, -⟩ := (f.mem_routines schemaB nameB).1 hb
  obtain ⟨hnameA, hcontainerA, -⟩ := of_routineReference? hreference
  obtain ⟨hnameB, hcontainerB, -⟩ := of_routineReference? hreference'
  have hschema : rowA.schema = rowB.schema := by
    rw [hcontainerA, hnames.routines rowA hrowA, hnames.routines rowB hrowB] at hcontainerB
    exact Container.schema.inj hcontainerB
  exact Prod.ext hschema (hnameA.symm.trans hnameB)

theorem nodup_references : (f.references cache).Nodup := by
  have hcategory : ∀ r ∈ f.columns.filterMap (·.reference? cache), r.category = .column := by
    intro r hr
    obtain ⟨c, -, hc⟩ := List.mem_filterMap.1 hr
    exact (ColumnRow.of_reference? hc).2.2.2
  have hroutine : ∀ r ∈ f.routines.filterMap (routineReference? cache), r.category = .routine := by
    intro r hr
    obtain ⟨routine, -, hroutine⟩ := List.mem_filterMap.1 hr
    exact (of_routineReference? hroutine).2.2
  rw [Findings.references, List.nodup_append', List.nodup_append']
  refine ⟨nodup_relationReferences hnames f,
    ⟨nodup_columnReferences hnames f, nodup_routineReferences hnames f, ?_⟩, ?_⟩
  · intro r hr hr'
    have h := (hcategory r hr).symm.trans (hroutine r hr')
    cases h
  · intro r hr hr'
    obtain ⟨relation, -, hrelation⟩ := List.mem_filterMap.1 hr
    have htable := (RelationRow.of_reference? hrelation).2.2
    rcases List.mem_append.1 hr' with hr' | hr'
    · rw [hcategory r hr'] at htable
      cases htable
    · rw [hroutine r hr'] at htable
      cases htable

end Nodup

section Nodup
variable (hload : load (s.session name defaultSchema) filter fetchSize = .ok cache)
  (hnames : s.SchemasAre fun schema => Text.trimEnd schema = schema)

include hload hnames

theorem nodup_columnNames {schema : String} {kept : Schema} (hkept : cache.schema? schema = some kept) {n : String}
    {r : Relation} (hr : kept.relation? n = some r) : (r.columns.map (·.name)).Nodup := by
  rw [(relation_origin hload hkept hr).2.1, List.map_map]
  have hnodup : (s.columnsOf schema n).Nodup := ((sortedBy_perm _).nodup_iff.2 s.columns.nodup).filter _
  refine List.Nodup.map_on ?_ hnodup
  intro a ha b hb hname
  obtain ⟨hrowA, hschemaA, hownerA⟩ := mem_columnsOf.1 ha
  obtain ⟨hrowB, hschemaB, hownerB⟩ := mem_columnsOf.1 hb
  rw [hnames.columns a hrowA] at hschemaA
  rw [hnames.columns b hrowB] at hschemaB
  exact s.columns.eq_of_key hrowA hrowB
    (Prod.ext (hschemaA.trans hschemaB.symm) (Prod.ext (hownerA.trans hownerB.symm) hname))

end Nodup

end Stored

/-- The relation that the reference names, or to which the column belongs that it names. -/
def Reference.relationName (r : Reference) : String := if r.category = .column then r.container.name else r.name

theorem Relation.of_columnsIn? {r : Relation} {schema : String} {container : Container}
    (h : r.columnsIn? schema = some container) : container.name = r.name ∧ container.schemaName = schema := by
  unfold columnsIn? at h
  split at h
  · cases h
    exact ⟨rfl, rfl⟩
  · cases h
    exact ⟨rfl, rfl⟩
  · cases h
    exact ⟨rfl, rfl⟩
  · cases h

section Nodup
variable (p : Params) (schema : String)

theorem Relation.nodup_offers {r : Relation} (hcategory : r.category.isTableLike = true)
    (hcolumns : (r.columns.map (·.name)).Nodup) : (r.offers p schema).Nodup := by
  have hown : ∀ container : Container, ((r.columns.filter fun c => .column ∈ p.categories ∧
      Mask.Fits p.effectiveMask c.name).map fun c => (⟨c.name, container, .column⟩ : Reference)).Nodup := by
    intro container
    refine List.Nodup.of_map Reference.name ?_
    rw [List.map_map]
    exact hcolumns.sublist (List.filter_sublist.map _)
  rw [offers, List.nodup_append']
  refine ⟨?_, ?_, ?_⟩
  · split
    next => exact List.nodup_singleton _
    next => exact List.nodup_nil
  · cases r.columnsIn? schema with
    | none => exact List.nodup_nil
    | some container => simpa using hown container
  · intro reference hrelation hcolumn
    have hreference : reference.category = r.category := by
      split at hrelation
      next => rw [List.mem_singleton.1 hrelation]
      next => cases hrelation
    obtain ⟨container, -, hcolumn⟩ := List.mem_flatMap.1 hcolumn
    obtain ⟨c, -, rfl⟩ := List.mem_map.1 hcolumn
    rw [← hreference] at hcategory
    cases hcategory

theorem Relation.of_mem_offers {r : Relation} (hcategory : r.category.isTableLike = true) {reference : Reference}
    (h : reference ∈ r.offers p schema) : reference.relationName = r.name ∧
      reference.container.schemaName = schema ∧ reference.category ≠ .routine := by
  rcases mem_offers.1 h with ⟨-, rfl⟩ | ⟨container, hcontainer, c, -, -, rfl⟩
  · have hother : ∀ other : Category, other.isTableLike = false → r.category ≠ other := by
      rintro other hother rfl
      rw [hother] at hcategory
      cases hcategory
    exact ⟨if_neg (hother .column rfl), rfl, hother .routine rfl⟩
  · obtain ⟨hname, hschema⟩ := of_columnsIn? hcontainer
    exact ⟨hname, hschema, Category.noConfusion⟩

theorem Routine.nodup_offers (r : Routine) : (r.offers p schema).Nodup := by
  unfold offers
  split
  next => exact List.nodup_singleton _
  next => exact List.nodup_nil

theorem Routine.of_mem_offers {r : Routine} {reference : Reference} (h : reference ∈ r.offers p schema) :
    reference.name = r.name ∧ reference.container.schemaName = schema ∧ reference.category = .routine := by
  obtain ⟨-, rfl⟩ := mem_offers.1 h
  exact ⟨rfl, rfl, rfl⟩

end Nodup

/-- A cache that has been loaded from a catalog without padded schemas offers nothing twice. -/
theorem Stored.nodup_offers {s : Stored} {name : String} {defaultSchema : Option String} {filter : Filter}
    {fetchSize : UInt32} {cache : Cache} (hload : load (s.session name defaultSchema) filter fetchSize = .ok cache)
    (hnames : s.SchemasAre fun schema => Text.trimEnd schema = schema) (p : Params) : (cache.offers p).Nodup := by
  -- a reference tells the schema and the name under which the entry is cached that it is offered for
  refine NameMap.nodup_flatMap_values (·.container.schemaName) ?_
  intro schema kept hkept
  have hname : kept.name = schema := name_kept hload hkept
  have hrelations : ∀ n r, kept.relation? n = some r → (r.offers p kept.name).Nodup ∧
      ∀ reference ∈ r.offers p kept.name, reference.relationName = n ∧ reference.container.schemaName = schema ∧
        reference.category ≠ .routine := by
    intro n r hr
    obtain ⟨hrname, -, row, -, -, -, hcode⟩ := relation_origin hload hkept hr
    have hcategory := TypeCodes.isTableLike_of_categoryFor? hcode
    refine ⟨Relation.nodup_offers p _ hcategory (nodup_columnNames hload hnames hkept hr), fun reference h => ?_⟩
    rw [← hrname, ← hname]
    exact Relation.of_mem_offers p _ hcategory h
  have hroutines : ∀ n r, kept.routine? n = some r → (r.offers p kept.name).Nodup ∧
      ∀ reference ∈ r.offers p kept.name, reference.name = n ∧ reference.container.schemaName = schema ∧
        reference.category = .routine := by
    intro n r hr
    refine ⟨Routine.nodup_offers p _ r, fun reference h => ?_⟩
    rw [← (routine_origin hload hkept hr).1, ← hname]
    exact Routine.of_mem_offers p _ h
  have hmemRelation : ∀ reference ∈ kept.relations.values.flatMap (·.offers p kept.name),
      reference.container.schemaName = schema ∧ reference.category ≠ .routine := by
    intro reference h
    obtain ⟨r, hr, h⟩ := List.mem_flatMap.1 h
    obtain ⟨n, hr⟩ := (NameMap.mem_values_iff _ _).1 hr
    exact ((hrelations n r hr).2 reference h).2
  have hmemRoutine : ∀ reference ∈ kept.routines.values.flatMap (·.offers p kept.name),
      reference.container.schemaName = schema ∧ reference.category = .routine := by
    intro reference h
    obtain ⟨r, hr, h⟩ := List.mem_flatMap.1 h
    obtain ⟨n, hr⟩ := (NameMap.mem_values_iff _ _).1 hr
    exact ((hroutines n r hr).2 reference h).2
  refine ⟨List.nodup_append'.2 ⟨?_, ?_, ?_⟩, ?_⟩
  · exact NameMap.nodup_flatMap_values Reference.relationName fun n r hr =>
      ⟨(hrelations n r hr).1, fun reference h => ((hrelations n r hr).2 reference h).1⟩
  · exact NameMap.nodup_flatMap_values Reference.name fun n r hr =>
      ⟨(hroutines n r hr).1, fun reference h => ((hroutines n r hr).2 reference h).1⟩
  · intro reference h h'
    exact (hmemRelation reference h).2 (hmemRoutine reference h').2
  · intro reference h
    rcases List.mem_append.1 h with h | h
    · exact (hmemRelation reference h).1
    · exact (hmemRoutine reference h).1

/-- **A search finds what the cache knows, each thing once, and nothing else**, when it is not cut short, no schema is
stored with padding and nothing has to be compared with a mask that is too long. -/
theorem search_known (additions : List Addition) (name : String) (defaultSchema : Option String) (filter : Filter)
    (loadSize searchSize : UInt32) (p : Params) (hp : p.validate = .ok ()) (hscope : p.scope = none)
    (hglobal : p.globalSearch = true) (hdefinitions : p.inDefinitions = false)
    (hcap : (Tables.filled additions).rowCount < p.maxResults.toNat)
    (hnames : ∀ a ∈ additions, Text.trimEnd a.schemaName = a.schemaName) :
    ∃ cache, load (HostedCatalog.session ⟨name, defaultSchema, Tables.filled additions, false⟩) filter loadSize =
        .ok cache ∧
      ((∃ hits, (search cache (HostedCatalog.session ⟨name, defaultSchema, Tables.filled additions, false⟩) searchSize
            p).result = .ok hits ∧ hits.Perm (cache.offers p) ∧ hits.Nodup) ∨
        Mask.isTooLong p.effectiveMask = true ∧
          (search cache (HostedCatalog.session ⟨name, defaultSchema, Tables.filled additions, false⟩) searchSize
            p).result = .error (.dataAccess name (.database .patternTooLong))) := by
  rw [Tables.filled_eq] at hcap ⊢
  have hstored := Stored.schemasAre_ofAdditions (fun schema => Text.trimEnd schema = schema) hnames
  generalize Stored.ofAdditions additions = s at hcap hstored ⊢
  obtain ⟨cache, hload⟩ := s.load_ok name defaultSchema filter loadSize
  refine ⟨cache, hload, ?_⟩
  have hnowhere : p.scopeWithin defaultSchema = none := by rw [Params.scopeWithin, hscope, hglobal]; rfl
  rcases Stored.search_uncut name defaultSchema cache searchSize hp hcap hnowhere with
    ⟨-, hall⟩ | ⟨⟨hlong, -⟩, hrefused⟩
  · have hnodup : ((s.findings p none).references cache).Nodup := Stored.nodup_references hstored _
    refine .inl ⟨_, hall, ?_, hnodup⟩
    rw [List.perm_ext_iff_of_nodup hnodup (Stored.nodup_offers hload hstored p)]
    intro reference
    exact Stored.mem_references_iff_mem_offers hload hstored hdefinitions _
  · exact .inr ⟨hlong, hrefused⟩

/-- A search for everything whose name begins with a letter. -/
def namedWithV : Params := { allWithV with inDefinitions := false }

/-- What is found is offered: the view is not, whose text alone begins so. -/
theorem search_smallAdditions_known :
    namedWithV.validate = .ok () ∧ (Tables.filled smallAdditions).rowCount < 100 ∧
    (∀ a ∈ smallAdditions, Text.trimEnd a.schemaName = a.schemaName) ∧
    load smallCatalog.session ⟨[], ["Q"]⟩ 1000 = .ok smallCache ∧
    (search smallCache smallCatalog.session 1000 namedWithV).result = .ok (hitsWithV.drop 1) ∧
    (hitsWithV.drop 1).Perm (smallCache.offers namedWithV) ∧ (hitsWithV.drop 1).Nodup := by
  have hcap : (Tables.filled smallAdditions).rowCount < 100 := by decide
  have hnames : ∀ a ∈ smallAdditions, Text.trimEnd a.schemaName = a.schemaName := by decide
  have hload : load smallCatalog.session ⟨[], ["Q"]⟩ 1000 = .ok smallCache := by decide +kernel
  have hfive : (search smallCache smallCatalog.session 1000 namedWithV).result = .ok (hitsWithV.drop 1) := by
    decide +kernel
  obtain ⟨cache, hcache, hfound⟩ :=
    search_known smallAdditions "small" none ⟨[], ["Q"]⟩ 1000 1000 namedWithV rfl rfl rfl rfl hcap hnames
  obtain rfl : smallCache = cache := Except.ok.inj (hload.symm.trans hcache)
  rcases hfound with ⟨hits, hok, hperm, hnodup⟩ | ⟨-, herror⟩
  · obtain rfl : hits = hitsWithV.drop 1 := Except.ok.inj (hok.symm.trans hfive)
    exact ⟨rfl, hcap, hnames, hload, hfive, hperm, hnodup⟩
  · cases hfive.symm.trans herror

/-! ## A long mask -/

theorem matches_wildcards (n : Nat) (cs : List Char) : Text.Matches .exact (List.replicate (n + 1) '%') cs := by
  induction n with
  | zero => exact Text.Matches.run (fun _ => rfl) cs
  | succ n ih => exact .skip ih

theorem fits_wildcards (n : Nat) (text : String) : Mask.Fits (wildcards (n + 1)) text := by
  have hplain : Text.IsPlain (wildcards (n + 1)) := by
    intro c hc
    rw [wildcards, String.toList_ofList] at hc
    rw [List.eq_of_mem_replicate hc]
    decide
  rw [Mask.Fits, Text.compared_eq_of_plain hplain, wildcards, String.toList_ofList]
  exact matches_wildcards n _

def singleCache : Cache :=
  Cache.empty.insert (Schema.addRelation { name := "S" } { name := "T", category := .table, typeCode := 'T' })

/-- The cache offers the table to a search with a long mask of wildcards, and the search is refused. -/
theorem search_longMask_offered :
    (tablesLike (wildcards 50001)).validate = .ok () ∧ singleTable.tables.rowCount < 100 ∧
    load singleTable.session .acceptAll 1000 = .ok singleCache ∧
    ⟨"T", .schema "S", .table⟩ ∈ singleCache.offers (tablesLike (wildcards 50001)) ∧
    (search singleCache singleTable.session 1000 (tablesLike (wildcards 50001))).result =
      .error (.dataAccess "single" (.database .patternTooLong)) := by
  refine ⟨validate_wildcards (by decide), by decide, by decide +kernel, ?_, search_wildcards _ _ (by decide)⟩
  refine Cache.mem_offers.2 ⟨"S", _, rfl, .inl ⟨"T", _, rfl, Relation.mem_offers.2 (.inl ⟨⟨?_, ?_⟩, rfl⟩)⟩⟩
  · exact List.mem_filter.2 ⟨Category.mem_all _, rfl⟩
  · rw [effectiveMask_wildcards (by decide)]
    exact fits_wildcards 50000 "T"

end CatalogFinder
