import CatalogFinder.Proofs.Tables.Filled

/-!
# Additions that fail

An addition is one statement after the other, each of which is done or changes nothing, but what the earlier ones have
stored stays when a later one fails. So an addition to tables of which some are missing may leave something behind: the
schema that it needs, and of a view its relation too.

* `Addition.Insertion`, `Addition.insertion` : a statement on one table, and the one that stores what is added;
* `Addition.steps`, `Addition.change_eq` : the additions whose statements an addition runs;
* `Addition.forM_insertion_append`, `Addition.forM_insertion_error_iff` : statements that are done, and where they fail;
* `Addition.Leaves` : what may be left of an addition that fails;
* `Addition.failed` : what is left of it;
* `Addition.view_halfway` : a view that is left without its text.
-/

namespace CatalogFinder

/-! ## The statements of an addition -/

namespace Addition

/-- A statement that edits the entries of one table, and that nothing stops but a table that is missing. -/
structure Insertion where
  {Entry : Type}
  part : Tables.Part Entry
  edit : List Entry → List Entry

namespace Insertion
variable (q : Insertion) {t : Tables}

/-- The statement as it is run. -/
def change : Tables.Change Unit := q.part.change fun entries => .ok (q.edit entries)

/-- The table is there. -/
def Fits (t : Tables) : Prop := (q.part.entries? t).isSome

/-- The tables with the edited one, if it is there. -/
def store (t : Tables) : Tables := q.part.replace t ((q.part.entries? t).map q.edit)

theorem change_run_of_fits (h : q.Fits t) : q.change.run t = (.ok (), q.store t) := by
  obtain ⟨entries, h⟩ := Option.isSome_iff_exists.1 h
  simp only [change, Tables.Part.change, Tables.Part.entries, store, h, ExceptT.run_mk]
  rfl

theorem change_run_of_not_fits (h : ¬ q.Fits t) :
    q.change.run t = (.error (.noSuchTable q.part.layout.name), t) := by
  have h : q.part.entries? t = none := by simpa [Fits] using h
  simp only [change, Tables.Part.change, Tables.Part.entries, h, ExceptT.run_mk]
  rfl

end Insertion

/-- The statement that stores its entry, and nothing that it needs. -/
def insertion : Addition → Insertion
  | schema name => ⟨Tables.schemataPart, SchemaEntry.layout.keep (schemaEntry name)⟩
  | relation s name code => ⟨Tables.relationsPart, RelationEntry.layout.upsert (RelationRow.entry ⟨s, name, code⟩)⟩
  | view s name text => ⟨Tables.viewsPart, ViewEntry.layout.upsert (ViewRow.entry ⟨s, name, text⟩)⟩
  | column s owner name ordinal dataType nullable =>
    ⟨Tables.columnsPart,
      ColumnEntry.layout.upsert (ColumnRow.entry ⟨s, owner, name, ordinal, dataType, nullable⟩)⟩
  | routine s name specificName text =>
    ⟨Tables.routinesPart, RoutineEntry.layout.upsert (RoutineRow.entry ⟨s, name, specificName, text⟩)⟩

/-- What is added before it: its schema, and the relation of a view. -/
def needs : Addition → List Addition
  | schema _ => []
  | relation s _ _ => [schema s]
  | view s name _ => [schema s, relation s name 'V']
  | column .. => []
  | routine s .. => [schema s]

/-- What it needs, and then the addition itself. -/
def steps (a : Addition) : List Addition := a.needs ++ [a]

theorem forM_insertion_singleton (a : Addition) :
    [a].forM (fun b => b.insertion.change) = a.insertion.change :=
  bind_pure a.insertion.change

/-- An addition runs the statements of its steps. -/
theorem change_eq (a : Addition) : a.change = a.steps.forM (·.insertion.change) := by
  cases a with
  | schema name => exact (forM_insertion_singleton (schema name)).symm
  | relation s name code =>
    show _ = (schema s).insertion.change >>= fun _ => [relation s name code].forM _
    rw [forM_insertion_singleton]
    rfl
  | view s name text =>
    show ((schema s).insertion.change >>= fun _ => (relation s name 'V').insertion.change) >>=
      (fun _ => (view s name text).insertion.change) = (schema s).insertion.change >>= fun _ =>
        (relation s name 'V').insertion.change >>= fun _ => [view s name text].forM _
    rw [forM_insertion_singleton, bind_assoc]
  | column s owner name ordinal dataType nullable => exact (forM_insertion_singleton (column ..)).symm
  | routine s name specificName text =>
    show _ = (schema s).insertion.change >>= fun _ => [routine s name specificName text].forM _
    rw [forM_insertion_singleton]
    rfl

/-- Which of the tables are there. -/
def present (t : Tables) : Bool × Bool × Bool × Bool × Bool :=
  (t.schemata.isSome, t.relations.isSome, t.columns.isSome, t.routines.isSome, t.views.isSome)

theorem fits_congr {t t' : Tables} (h : present t = present t') (a : Addition) :
    a.insertion.Fits t ↔ a.insertion.Fits t' := by
  simp only [present, Prod.mk.injEq] at h
  unfold Insertion.Fits
  cases a with
  | schema => exact iff_of_eq (congrArg (· = true) h.1)
  | relation => exact iff_of_eq (congrArg (· = true) h.2.1)
  | column => exact iff_of_eq (congrArg (· = true) h.2.2.1)
  | routine => exact iff_of_eq (congrArg (· = true) h.2.2.2.1)
  | view => exact iff_of_eq (congrArg (· = true) h.2.2.2.2)

/-- A statement makes no table go away, and makes none. -/
theorem present_store {t : Tables} (a : Addition) : present (a.insertion.store t) = present t := by
  cases a with
  | schema => exact congrArg (·, _, _, _, _) Option.isSome_map
  | relation => exact congrArg (_, ·, _, _, _) Option.isSome_map
  | column => exact congrArg (_, _, ·, _, _) Option.isSome_map
  | routine => exact congrArg (_, _, _, ·, _) Option.isSome_map
  | view => exact congrArg (_, _, _, _, ·) Option.isSome_map

/-! ## What is left of an addition that fails -/

variable {t t' : Tables} {e : DatabaseError} {before behind : List Addition}

/-- The tables after the statements of some additions have been done. -/
def stored (l : List Addition) (t : Tables) : Tables := l.foldl (fun t a => a.insertion.store t) t

theorem present_stored {t : Tables} (l : List Addition) : present (stored l t) = present t := by
  induction l generalizing t with
  | nil => rfl
  | cons a l ih => exact ih.trans (present_store a)

theorem forM_insertion_cons (a : Addition) (l : List Addition) (t : Tables) :
    ((a :: l).forM (·.insertion.change)).run t =
      match a.insertion.change.run t with
      | (.ok (), later) => (l.forM (·.insertion.change)).run later
      | (.error e, later) => (.error e, later) := by
  show (a.insertion.change >>= fun _ => l.forM (·.insertion.change)).run t = _
  unfold ExceptT.run
  simp only [bind, ExceptT.bind, ExceptT.mk, StateT.bind]
  rcases a.insertion.change t with ⟨_ | _, later⟩
  · rfl
  · rfl

/-- Statements whose tables are there before the first are done, and the others follow. -/
theorem forM_insertion_append {l l' : List Addition} (h : ∀ a ∈ l, a.insertion.Fits t) :
    ((l ++ l').forM (·.insertion.change)).run t = (l'.forM (·.insertion.change)).run (stored l t) := by
  induction l generalizing t with
  | nil => rfl
  | cons a l ih =>
    obtain ⟨ha, hl⟩ := List.forall_mem_cons.1 h
    rw [List.cons_append, forM_insertion_cons, a.insertion.change_run_of_fits ha]
    apply ih
    intro b hb
    rw [fits_congr (present_store a)]
    exact hl b hb

/-- Statements fail at the first one whose table is missing, and what those before it have stored stays. -/
theorem forM_insertion_error_iff {l : List Addition} : (l.forM (·.insertion.change)).run t = (.error e, t') ↔
    ∃ before b behind, l = before ++ b :: behind ∧ (∀ c ∈ before, c.insertion.Fits t) ∧
      ¬ b.insertion.Fits t ∧ e = .noSuchTable b.insertion.part.layout.name ∧ t' = stored before t := by
  constructor
  · intro h
    induction l generalizing t with
    | nil => cases h
    | cons a l ih =>
      rw [forM_insertion_cons] at h
      by_cases hfits : a.insertion.Fits t
      · rw [a.insertion.change_run_of_fits hfits] at h
        obtain ⟨before, b, behind, rfl, hbefore, hb, he, ht'⟩ := ih h
        simp only [fits_congr (present_store a)] at hbefore hb
        exact ⟨a :: before, b, behind, rfl, List.forall_mem_cons.2 ⟨hfits, hbefore⟩, hb, he, ht'⟩
      · rw [a.insertion.change_run_of_not_fits hfits] at h
        cases h
        exact ⟨[], a, l, rfl, nofun, hfits, rfl, rfl⟩
  · rintro ⟨before, b, behind, rfl, hbefore, hb, rfl, rfl⟩
    rw [← fits_congr (present_stored before)] at hb
    rw [forM_insertion_append hbefore, forM_insertion_cons, b.insertion.change_run_of_not_fits hb]

/-- An addition fails at the first of its statements whose table is missing. -/
theorem change_error_iff (a : Addition) : a.change.run t = (.error e, t') ↔
    ∃ before b behind, a.steps = before ++ b :: behind ∧ (∀ c ∈ before, c.insertion.Fits t) ∧
      ¬ b.insertion.Fits t ∧ e = .noSuchTable b.insertion.part.layout.name ∧ t' = stored before t := by
  rw [change_eq, forM_insertion_error_iff]

/-- What may be left of an addition that fails: its schema, and the relation of a view. -/
structure Leaves (a : Addition) (t t' : Tables) : Prop where
  columns : t'.columns = t.columns
  routines : t'.routines = t.routines
  views : t'.views = t.views
  schemata : t'.schemata = t.schemata ∨
    schema a.schemaName ∈ a.needs ∧
      t'.schemata = t.schemata.map (SchemaEntry.layout.keep (schemaEntry a.schemaName))
  relations : t'.relations = t.relations ∨
    ∃ s name text, a = view s name text ∧ t.views = none ∧
      t'.relations = t.relations.map (RelationEntry.layout.upsert (RelationRow.entry ⟨s, name, 'V'⟩))

theorem Leaves.nothing (a : Addition) (t : Tables) : a.Leaves t t := ⟨rfl, rfl, rfl, .inl rfl, .inl rfl⟩

theorem Leaves.schema {a : Addition} (h : schema a.schemaName ∈ a.needs) (t : Tables) :
    a.Leaves t ((Addition.schema a.schemaName).insertion.store t) :=
  ⟨rfl, rfl, rfl, .inr ⟨h, rfl⟩, .inl rfl⟩

theorem before_prefix {a b : Addition} (h : a.steps = before ++ b :: behind) : before <+: a.needs := by
  have hlength : before.length ≤ a.needs.length := by
    have := congrArg List.length h
    simp only [steps, List.length_append, List.length_cons, List.length_nil] at this
    omega
  exact List.prefix_of_prefix_length_le ⟨b :: behind, h.symm⟩ (List.prefix_append a.needs [a]) hlength

/-- The statements before the one that fails leave no more than that. -/
theorem leaves_stored {a b : Addition} (h : a.steps = before ++ b :: behind) (hb : ¬ b.insertion.Fits t) :
    a.Leaves t (stored before t) := by
  have hbefore := before_prefix h
  cases a with
  | schema name =>
    obtain rfl := List.prefix_nil.1 hbefore
    exact .nothing _ t
  | relation s name code =>
    obtain rfl | ⟨rest, rfl, hrest⟩ := List.prefix_cons_iff.1 hbefore
    · exact .nothing _ t
    obtain rfl := List.prefix_nil.1 hrest
    exact .schema (List.mem_singleton_self _) t
  | view s name text =>
    obtain rfl | ⟨rest, rfl, hrest⟩ := List.prefix_cons_iff.1 hbefore
    · exact .nothing _ t
    obtain rfl | ⟨tail, rfl, htail⟩ := List.prefix_cons_iff.1 hrest
    · exact .schema List.mem_cons_self t
    obtain rfl := List.prefix_nil.1 htail
    -- both are there, so it is the text that has no table
    obtain ⟨rfl, -⟩ := List.cons.inj (List.append_cancel_left h)
    have hviews : t.views = none := Option.not_isSome_iff_eq_none.1 hb
    exact ⟨rfl, rfl, rfl, .inr ⟨List.mem_cons_self, rfl⟩, .inr ⟨s, name, text, rfl, hviews, rfl⟩⟩
  | column s owner name ordinal dataType nullable =>
    obtain rfl := List.prefix_nil.1 hbefore
    exact .nothing _ t
  | routine s name specificName text =>
    obtain rfl | ⟨rest, rfl, hrest⟩ := List.prefix_cons_iff.1 hbefore
    · exact .nothing _ t
    obtain rfl := List.prefix_nil.1 hrest
    exact .schema (List.mem_singleton_self _) t

theorem Leaves.eq_of_needs {a : Addition} (h : a.Leaves t t') (hneeds : a.needs = []) : t' = t := by
  have hschemata : t'.schemata = t.schemata := by
    refine h.schemata.resolve_right ?_
    rintro ⟨hmem, -⟩
    rw [hneeds] at hmem
    cases hmem
  have hrelations : t'.relations = t.relations := by
    refine h.relations.resolve_right ?_
    rintro ⟨s, name, text, rfl, -⟩
    cases hneeds
  obtain ⟨hcolumns, hroutines, hviews, -, -⟩ := h
  cases t
  cases t'
  congr

end Addition

end CatalogFinder
