import CatalogFinder.Proofs.Search.Hosted

/-!
# Searches that are not cut short

A search that may return more references than the catalog has rows is never cut short. Then its result can be said
exactly: the references to all rows that it asks for, or the refusal of a mask that is too long.

* `Tables.rowCount` : the number of rows of a catalog;
* `Stored.Refuses` : a search compares something with a mask that is too long;
* `Stored.search_uncut` : the result of a search that is not cut short.
-/

namespace CatalogFinder

def Tables.rowCount (t : Tables) : Nat :=
  (t.schemata.getD []).length + (t.relations.getD []).length + (t.columns.getD []).length +
    (t.routines.getD []).length + (t.views.getD []).length

namespace Stored

variable (s : Stored) (p : Params) (scope : Option String)

theorem rowCount_tables : s.tables.rowCount = s.schemata.rows.length + s.relations.rows.length +
    s.columns.rows.length + s.routines.rows.length + s.views.rows.length := by
  simp [Tables.rowCount, tables]

theorem length_wantedRelations_le (mask : String) (codes : List Char) (definitions : Bool) :
    (s.wantedRelations scope mask codes definitions).length ≤ s.relations.rows.length := by
  rw [wantedRelations, (sortedBy_perm _).length_eq]
  exact List.length_filter_le _ _

theorem length_wantedColumns_le (mask : String) : (s.wantedColumns scope mask).length ≤ s.columns.rows.length := by
  rw [wantedColumns, (sortedBy_perm _).length_eq]
  exact List.length_filter_le _ _

theorem length_wantedRoutines_le (mask : String) (definitions : Bool) :
    (s.wantedRoutines scope mask definitions).length ≤ s.routines.rows.length := by
  refine (eraseDups_sublist _).length_le.trans ?_
  rw [List.length_map, (sortedBy_perm _).length_eq]
  exact List.length_filter_le _ _

theorem length_references_le (cache : Cache) :
    ((s.findings p scope).references cache).length ≤ s.tables.rowCount := by
  have hrelations : ((s.findings p scope).relations.filterMap (·.reference? cache)).length ≤ s.relations.rows.length :=
    (List.length_filterMap_le _ _).trans (s.length_wantedRelations_le ..)
  have hcolumns : ((s.findings p scope).columns.filterMap (·.reference? cache)).length ≤ s.columns.rows.length := by
    refine (List.length_filterMap_le _ _).trans ?_
    rw [columns_findings]
    split
    next => exact s.length_wantedColumns_le ..
    next => exact Nat.zero_le _
  have hroutines : ((s.findings p scope).routines.filterMap (routineReference? cache)).length ≤
      s.routines.rows.length := by
    refine (List.length_filterMap_le _ _).trans ?_
    rw [routines_findings]
    split
    next => exact s.length_wantedRoutines_le ..
    next => exact Nat.zero_le _
  rw [rowCount_tables, Findings.references, List.length_append, List.length_append]
  omega

/-- Something that the search asks for has to be compared with a mask that is too long. -/
def Refuses : Prop := Mask.isTooLong p.effectiveMask = true ∧ ∃ g ∈ p.groups, s.compares p scope g = true

variable {s p scope}

/-- **A search that is not cut short returns the references to all rows that it asks for**, unless something has to be
compared with a mask that is too long; then it is refused. -/
theorem search_uncut (name : String) (defaultSchema : Option String) (cache : Cache) (fetchSize : UInt32)
    (hp : p.validate = .ok ()) (hcap : s.tables.rowCount < p.maxResults.toNat)
    (hscope : p.scopeWithin defaultSchema = scope) :
    ¬ s.Refuses p scope ∧
        (search cache (HostedCatalog.session ⟨name, defaultSchema, s.tables, false⟩) fetchSize p).result =
          .ok ((s.findings p scope).references cache) ∨
      s.Refuses p scope ∧
        (search cache (HostedCatalog.session ⟨name, defaultSchema, s.tables, false⟩) fetchSize p).result =
          .error (.dataAccess name (.database .patternTooLong)) := by
  subst hscope
  have hserves := s.serves_plan name defaultSchema cache fetchSize p
  have hlength := s.length_references_le p (p.scopeWithin defaultSchema) cache
  rw [s.result_search name defaultSchema cache fetchSize p hp]
  by_cases hrefuses : s.Refuses p (p.scopeWithin defaultSchema)
  · refine .inr ⟨hrefuses, ?_⟩
    obtain ⟨hlong, g, hg, hcompares⟩ := hrefuses
    have hrefused : ∃ e ∈ p.plan .sqlite defaultSchema fetchSize,
        (HostedCatalog.session ⟨name, defaultSchema, s.tables, false⟩).reply e.2 =
          ⟨[], some (.database .patternTooLong)⟩ :=
      ⟨_, List.mem_map_of_mem hg, (s.refused_iff p hg _).2 ⟨hlong, hcompares⟩⟩
    rw [Search.runPlan_of_refused rfl _ _ hserves hrefused _ _ (by rw [flatMap_plan]; omega)]
    rfl
  · refine .inl ⟨hrefuses, ?_⟩
    rcases Search.runPlan_of_serves rfl _ _ hserves p.maxResults.toNat 0 with hok | ⟨⟨e, he, hrefused⟩, -⟩
    · rw [hok, flatMap_plan, List.take_of_length_le (by omega)]
      rfl
    · obtain ⟨g, hg, rfl⟩ := List.mem_map.1 he
      obtain ⟨hlong, hcompares⟩ := (s.refused_iff p hg _).1 hrefused
      exact absurd ⟨hlong, g, hg, hcompares⟩ hrefuses

end Stored

end CatalogFinder
