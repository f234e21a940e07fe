import CatalogFinder.Proofs.Catalog.Denoted
import CatalogFinder.Proofs.NameMap

/-!
# Loading under a filter

A filter is asked about schemas only, and each later row concerns one schema. So two loads of one session, one that
accepts every schema and one that does not, go side by side: at each row the schemas of the second are those of the
first that its filter accepts.

* `Cache.restrict` : the schemas of a cache whose names are kept;
* `Load.Mirrors` : a step of one load does to the kept schemas what a step of the other does to all;
* `load_restrict` : a load under a filter gives what the filter accepts of a load of everything.
-/

namespace CatalogFinder

def Cache.restrict (c : Cache) (keeps : String → Bool) : Cache := ⟨c.schemas.restrict keeps⟩

theorem Cache.schema?_restrict (c : Cache) (keeps : String → Bool) (name : String) :
    (c.restrict keeps).schema? name = if keeps name then c.schema? name else none :=
  c.schemas.get?_restrict keeps name

theorem Filter.accepts_acceptAll (name : String) : Filter.acceptAll.accepts name = true := rfl

namespace Load

/-! ## Steps side by side -/

/-- What one step does to any schemas without an error, the other does to those of them that are kept. -/
def Mirrors (keeps : String → Bool) (step mirror : RowStep) : Prop :=
  ∀ {schemas schemas' : NameMap Schema} {row : Row}, step schemas row = .ok schemas' →
    mirror (schemas.restrict keeps) row = .ok (schemas'.restrict keeps)

theorem addSchema_mirrors (filter : Filter) : Mirrors filter.accepts (addSchema .acceptAll) (addSchema filter) := by
  intro schemas schemas' row h
  obtain ⟨name, hname, h⟩ := bind_eq_ok h
  rw [Filter.accepts_acceptAll, if_pos rfl] at h
  cases h
  unfold addSchema
  rw [hname]
  cases haccepts : filter.accepts name with
  | true => simp [bind, Except.bind, pure, Except.pure, haccepts, NameMap.restrict_insert_of_kept haccepts]
  | false => simp [bind, Except.bind, pure, Except.pure, haccepts, NameMap.restrict_insert_of_not_kept haccepts]

/-- A row whose schema is not kept changes no kept schema, and needs no more than it needs there. -/
theorem Edit.step_mirrors (e : Edit) (keeps : String → Bool) : Mirrors keeps e.step e.step := by
  intro schemas schemas' row h
  obtain ⟨schema, hschema, h⟩ := bind_eq_ok h
  obtain ⟨needed, hneeded, h⟩ := bind_eq_ok h
  simp only [step, hschema, hneeded, bind, Except.bind, pure, Except.pure]
  -- where the schema is not kept, the change is not made, and so it cannot fail either
  cases hkeeps : keeps schema with
  | true =>
    rw [NameMap.get?_restrict_of_kept hkeeps]
    cases hkept : schemas.get? schema with
    | none =>
      rw [hkept] at h
      cases h
      rfl
    | some kept =>
      rw [hkept] at h
      obtain ⟨s, hs, h⟩ := bind_eq_ok h
      cases h
      simp only [hs, NameMap.restrict_insert_of_kept hkeeps]
  | false =>
    rw [NameMap.get?_restrict_of_not_kept hkeeps]
    cases hkept : schemas.get? schema with
    | none =>
      rw [hkept] at h
      cases h
      rfl
    | some kept =>
      rw [hkept] at h
      obtain ⟨s, -, h⟩ := bind_eq_ok h
      cases h
      simp only [NameMap.restrict_insert_of_not_kept hkeeps]

/-! ## Scans side by side -/

/-- What steps do one after the other, their mirrors do side by side with them. -/
theorem Mirrors.foldlM {keeps : String → Bool} {step mirror : RowStep} (hstep : Mirrors keeps step mirror)
    {rows : List Row} {schemas schemas' : NameMap Schema} (h : rows.foldlM step schemas = .ok schemas') :
    rows.foldlM mirror (schemas.restrict keeps) = .ok (schemas'.restrict keeps) := by
  induction rows generalizing schemas with
  | nil =>
    cases h
    rfl
  | cons row rows ih =>
    rw [List.foldlM_cons] at h
    obtain ⟨later, hrow, h⟩ := bind_eq_ok h
    rw [List.foldlM_cons, hstep hrow]
    exact ih h

theorem Reads.mirrored {keeps : String → Bool} {step mirror : RowStep} (hstep : Mirrors keeps step mirror)
    {session : Session} {fetchSize : UInt32} {request : Request} {schemas schemas' : NameMap Schema}
    (h : Reads session fetchSize request step schemas schemas') :
    Reads session fetchSize request mirror (schemas.restrict keeps) (schemas'.restrict keeps) :=
  ⟨h.1, hstep.foldlM h.2⟩

end Load

/-- **A load under a filter gives what the filter accepts of a load of everything.** -/
theorem load_restrict (session : Session) (filter : Filter) (fetchSize : UInt32) (cache : Cache)
    (h : load session .acceptAll fetchSize = .ok cache) :
    load session filter fetchSize = .ok (cache.restrict filter.accepts) := by
  obtain ⟨first, second, third, hschemata, hrelations, hcolumns, hroutines⟩ := Load.load_eq_ok.1 h
  rw [Load.addRelation_eq_step] at hrelations
  rw [Load.addColumn_eq_step] at hcolumns
  rw [Load.addRoutine_eq_step] at hroutines
  refine Load.load_eq_ok.2 ⟨first.restrict filter.accepts, second.restrict filter.accepts,
    third.restrict filter.accepts, ?_, ?_, ?_, ?_⟩
  · rw [← NameMap.restrict_empty filter.accepts]
    exact hschemata.mirrored (Load.addSchema_mirrors filter)
  · rw [Load.addRelation_eq_step]
    exact hrelations.mirrored (Load.relationEdit.step_mirrors _)
  · rw [Load.addColumn_eq_step]
    exact hcolumns.mirrored (Load.columnEdit.step_mirrors _)
  · rw [Load.addRoutine_eq_step]
    exact hroutines.mirrored (Load.routineEdit.step_mirrors _)

theorem load_interleaved_restrict : ∃ cache, load interleaved .acceptAll 1000 = .ok cache ∧
    load interleaved { excluded := ["R"] } 1000 =
      .ok (cache.restrict (Filter.accepts { excluded := ["R"] })) :=
  ⟨_, rfl, load_restrict interleaved { excluded := ["R"] } 1000 _ rfl⟩

end CatalogFinder
