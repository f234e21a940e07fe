import CatalogFinder.Tables.Basic

/-!
# Filled catalogs

A catalog that is filled by additions, and by nothing else, holds only texts where it could hold any values. Its rows
are kept here in types of their own, in tables that have no two rows of one key.

* `Addition`, `Tables.filled` : what can be added to a catalog, and the tables after some additions;
* `Keyed` : rows, no two of them of one key;
* `Stored` : the rows of a filled catalog, and `Stored.tables` : the tables that hold them;
* `Stored.SchemasAre` : what is said of all schemas of rows;
* `Tables.filled_eq` : the tables after some additions hold the rows that have been added.
-/

namespace CatalogFinder

/-! ## Additions -/

/-- What can be added to a catalog. -/
inductive Addition where
  | schema (name : String)
  | relation (schema name : String) (code : Char)
  | view (schema name text : String)
  | column (schema owner name : String) (ordinal : UInt32) (dataType : String) (nullable : Bool)
  | routine (schema name specificName : String) (text : Option String)

/-- The statements that add it. -/
def Addition.change : Addition → Tables.Change Unit
  | schema name => Tables.addSchema name
  | relation s name code => Tables.addRelation s name code
  | view s name text => Tables.addView s name text
  | column s owner name ordinal dataType nullable => Tables.addColumn s owner name ordinal dataType nullable
  | routine s name specificName text => Tables.addRoutine s name specificName text

/-- The schema that it is added to. -/
def Addition.schemaName : Addition → String
  | schema name => name
  | relation s _ _ => s
  | view s _ _ => s
  | column s .. => s
  | routine s .. => s

namespace Tables

/-- The tables after some statements. -/
def after {α : Type} (t : Tables) (change : Change α) : Tables := (change.run t).2

/-- The tables of a new catalog after some additions. -/
def filled (additions : List Addition) : Tables := additions.foldl (fun t a => t.after a.change) .empty

end Tables

/-! ## Keyed rows -/

/-- Rows, no two of them of one key. -/
structure Keyed {α κ : Type} (key : α → κ) where
  rows : List α := []
  distinct : (rows.map key).Nodup := by exact List.nodup_nil

namespace Keyed

variable {α κ : Type} {key : α → κ}

/-- A key belongs to one row. -/
theorem eq_of_key (t : Keyed key) {a b : α} (ha : a ∈ t.rows) (hb : b ∈ t.rows) (h : key a = key b) : a = b := by
  obtain ⟨rows, distinct⟩ := t
  simp only at ha hb
  induction rows with
  | nil => cases ha
  | cons r rows ih =>
    rw [List.map_cons, List.nodup_cons] at distinct
    obtain ⟨hr, distinct⟩ := distinct
    rcases List.mem_cons.1 ha with rfl | ha' <;> rcases List.mem_cons.1 hb with rfl | hb'
    · rfl
    · exact absurd (h ▸ List.mem_map_of_mem hb') hr
    · exact absurd (h ▸ List.mem_map_of_mem ha') hr
    · exact ih distinct ha' hb'

theorem nodup (t : Keyed key) : t.rows.Nodup := by
  refine (List.pairwise_map.1 t.distinct).imp ?_
  intro a b hne heq
  exact hne (congrArg key heq)

variable [DecidableEq κ]

/-- The rows with the new one instead of any of its key. -/
def upsert (t : Keyed key) (a : α) : Keyed key where
  rows := t.rows.filter (key · ≠ key a) ++ [a]
  distinct := by
    rw [List.map_append, List.nodup_append]
    refine ⟨(List.filter_sublist.map key).nodup t.distinct, by simp, ?_⟩
    intro k hk b hb heq
    obtain ⟨r, hr, rfl⟩ := List.mem_map.1 hk
    rw [List.map_singleton, List.mem_singleton] at hb
    simpa [heq, hb] using (List.mem_filter.1 hr).2

/-- What holds of the rows and of the new one holds of the rows with the new one. -/
theorem forall_upsert (t : Keyed key) {a : α} {holds : α → Prop} (ht : ∀ r ∈ t.rows, holds r) (ha : holds a) :
    ∀ r ∈ (t.upsert a).rows, holds r := by
  intro r hr
  rcases List.mem_append.1 hr with hr | hr
  · exact ht r (List.mem_filter.1 hr).1
  · rwa [List.mem_singleton.1 hr]

/-- The rows with one of this key: the one that is there, or else the new one. -/
def keep (t : Keyed key) (a : α) : Keyed key where
  rows := if t.rows.any (key · = key a) then t.rows else t.rows ++ [a]
  distinct := by
    split
    next => exact t.distinct
    next hnone =>
      rw [List.map_append, List.nodup_append]
      refine ⟨t.distinct, by simp, ?_⟩
      intro k hk b hb heq
      obtain ⟨r, hr, rfl⟩ := List.mem_map.1 hk
      rw [List.map_singleton, List.mem_singleton] at hb
      refine hnone (List.any_eq_true.2 ⟨r, hr, ?_⟩)
      simp [heq, hb]

end Keyed

section Layout
variable {α ε κ : Type} [DecidableEq κ] {key : α → κ} (l : Layout ε) (entry : α → ε)

/-- Keys of rows are told apart as those of their entries are. -/
theorem Layout.upsert_map (hkey : ∀ a b, l.key (entry a) = l.key (entry b) ↔ key a = key b) (t : Keyed key) (a : α) :
    l.upsert (entry a) (t.rows.map entry) = (t.upsert a).rows.map entry := by
  have hfilter : (fun r => decide (l.key r ≠ l.key (entry a))) ∘ entry = fun r => decide (key r ≠ key a) := by
    funext r
    simp [hkey]
  rw [Layout.upsert, List.filter_map, hfilter, Keyed.upsert, List.map_append, List.map_singleton]

theorem Layout.keep_map (hkey : ∀ a b, l.key (entry a) = l.key (entry b) ↔ key a = key b) (t : Keyed key) (a : α) :
    l.keep (entry a) (t.rows.map entry) = (t.keep a).rows.map entry := by
  have hany : (t.rows.map entry).any (fun r => decide (l.key r = l.key (entry a))) =
      t.rows.any fun r => decide (key r = key a) := by
    rw [List.any_map]
    congr 1
    funext r
    simp [hkey]
  rw [Layout.keep, hany, Keyed.keep]
  split <;> simp

end Layout

/-! ## Stored rows -/

/-- A row of a relation. -/
structure RelationRow where
  schema : String
  name : String
  code : Char
  deriving DecidableEq

/-- A row of a column. -/
structure ColumnRow where
  schema : String
  owner : String
  name : String
  ordinal : UInt32
  dataType : String
  nullable : Bool
  deriving DecidableEq

/-- A row of an overload of a routine. -/
structure RoutineRow where
  schema : String
  name : String
  specificName : String
  text : Option String
  deriving DecidableEq

/-- A row with the text of a view. -/
structure ViewRow where
  schema : String
  name : String
  text : String
  deriving DecidableEq

/-- The entry of a schema that has no owner. -/
def schemaEntry (schema : String) : SchemaEntry := { name := .text schema }

def RelationRow.key (r : RelationRow) : String × String := (r.schema, r.name)

/-- The entry that holds the row. -/
def RelationRow.entry (r : RelationRow) : RelationEntry := ⟨.text r.schema, .text r.name, .text r.code.toString⟩

def ColumnRow.key (c : ColumnRow) : String × String × String := (c.schema, c.owner, c.name)

/-- The entry that holds the row. -/
def ColumnRow.entry (c : ColumnRow) : ColumnEntry :=
  ⟨.text c.schema, .text c.owner, .text c.name, .integer c.ordinal.toNat, .text c.dataType,
    .text (if c.nullable then "Y" else "N")⟩

def RoutineRow.key (r : RoutineRow) : String × String := (r.schema, r.specificName)

/-- The entry that holds the row. -/
def RoutineRow.entry (r : RoutineRow) : RoutineEntry :=
  ⟨.text r.schema, .text r.name, .text r.specificName, (r.text.map Value.text).getD .null⟩

def ViewRow.key (v : ViewRow) : String × String := (v.schema, v.name)

/-- The entry that holds the row. -/
def ViewRow.entry (v : ViewRow) : ViewEntry := ⟨.text v.schema, .text v.name, .text v.text⟩

/-- The rows of a filled catalog. -/
structure Stored where
  schemata : Keyed (id : String → String) := {}
  relations : Keyed RelationRow.key := {}
  columns : Keyed ColumnRow.key := {}
  routines : Keyed RoutineRow.key := {}
  views : Keyed ViewRow.key := {}

namespace Stored

/-- The tables that hold the rows. -/
def tables (s : Stored) : Tables where
  schemata := some (s.schemata.rows.map schemaEntry)
  relations := some (s.relations.rows.map RelationRow.entry)
  columns := some (s.columns.rows.map ColumnRow.entry)
  routines := some (s.routines.rows.map RoutineRow.entry)
  views := some (s.views.rows.map ViewRow.entry)

/-- The rows with one more addition. -/
def add (s : Stored) : Addition → Stored
  | .schema name => { s with schemata := s.schemata.keep name }
  | .relation schema name code =>
    { s with schemata := s.schemata.keep schema, relations := s.relations.upsert ⟨schema, name, code⟩ }
  | .view schema name text =>
    { s with
      schemata := s.schemata.keep schema
      relations := s.relations.upsert ⟨schema, name, 'V'⟩
      views := s.views.upsert ⟨schema, name, text⟩ }
  | .column schema owner name ordinal dataType nullable =>
    { s with columns := s.columns.upsert ⟨schema, owner, name, ordinal, dataType, nullable⟩ }
  | .routine schema name specificName text =>
    { s with
      schemata := s.schemata.keep schema
      routines := s.routines.upsert ⟨schema, name, specificName, text⟩ }

/-- The rows of a new catalog after some additions. -/
def ofAdditions (additions : List Addition) : Stored := additions.foldl add {}

section Entries
variable (s : Stored)

theorem keep_schema (schema : String) :
    SchemaEntry.layout.keep { name := .text schema } (s.schemata.rows.map schemaEntry) =
      (s.schemata.keep schema).rows.map schemaEntry :=
  SchemaEntry.layout.keep_map schemaEntry (by simp [SchemaEntry.layout, schemaEntry]) s.schemata schema

theorem upsert_relation (schema name : String) (code : Char) :
    RelationEntry.layout.upsert ⟨.text schema, .text name, .text code.toString⟩
        (s.relations.rows.map RelationRow.entry) =
      (s.relations.upsert ⟨schema, name, code⟩).rows.map RelationRow.entry :=
  RelationEntry.layout.upsert_map RelationRow.entry
    (by simp [RelationEntry.layout, RelationRow.entry, RelationRow.key]) s.relations ⟨schema, name, code⟩

theorem upsert_column (schema owner name : String) (ordinal : UInt32) (dataType : String) (nullable : Bool) :
    ColumnEntry.layout.upsert ⟨.text schema, .text owner, .text name, .integer ordinal.toNat, .text dataType,
        .text (if nullable then "Y" else "N")⟩ (s.columns.rows.map ColumnRow.entry) =
      (s.columns.upsert ⟨schema, owner, name, ordinal, dataType, nullable⟩).rows.map ColumnRow.entry :=
  ColumnEntry.layout.upsert_map ColumnRow.entry
    (by simp [ColumnEntry.layout, ColumnRow.entry, ColumnRow.key]) s.columns
    ⟨schema, owner, name, ordinal, dataType, nullable⟩

theorem upsert_routine (schema name specificName : String) (text : Option String) :
    RoutineEntry.layout.upsert ⟨.text schema, .text name, .text specificName, (text.map Value.text).getD .null⟩
        (s.routines.rows.map RoutineRow.entry) =
      (s.routines.upsert ⟨schema, name, specificName, text⟩).rows.map RoutineRow.entry :=
  RoutineEntry.layout.upsert_map RoutineRow.entry
    (by simp [RoutineEntry.layout, RoutineRow.entry, RoutineRow.key]) s.routines
    ⟨schema, name, specificName, text⟩

theorem upsert_view (schema name text : String) :
    ViewEntry.layout.upsert ⟨.text schema, .text name, .text text⟩ (s.views.rows.map ViewRow.entry) =
      (s.views.upsert ⟨schema, name, text⟩).rows.map ViewRow.entry :=
  ViewEntry.layout.upsert_map ViewRow.entry (by simp [ViewEntry.layout, ViewRow.entry, ViewRow.key]) s.views
    ⟨schema, name, text⟩

/-- One addition changes the tables as it changes the rows. -/
theorem tables_add (a : Addition) : s.tables.after a.change = (s.add a).tables := by
  cases a with
  | schema name =>
    show Tables.mk (some (SchemaEntry.layout.keep _ _)) _ _ _ _ = _
    rw [keep_schema]
    rfl
  | relation schema name code =>
    show Tables.mk (some (SchemaEntry.layout.keep _ _)) (some (RelationEntry.layout.upsert _ _)) _ _ _ = _
    rw [keep_schema, upsert_relation]
    rfl
  | view schema name text =>
    show Tables.mk (some (SchemaEntry.layout.keep _ _)) (some (RelationEntry.layout.upsert _ _)) _ _
      (some (ViewEntry.layout.upsert _ _)) = _
    rw [keep_schema, upsert_relation, upsert_view]
    rfl
  | column schema owner name ordinal dataType nullable =>
    show Tables.mk _ _ (some (ColumnEntry.layout.upsert _ _)) _ _ = _
    rw [upsert_column]
    rfl
  | routine schema name specificName text =>
    show Tables.mk (some (SchemaEntry.layout.keep _ _)) _ _ (some (RoutineEntry.layout.upsert _ _)) _ = _
    rw [keep_schema, upsert_routine]
    rfl

end Entries

/-! ## Schemas of stored rows -/

/-- The schemas of all relations, columns and routines have a property. -/
structure SchemasAre (s : Stored) (test : String → Prop) : Prop where
  relations : ∀ r ∈ s.relations.rows, test r.schema
  columns : ∀ c ∈ s.columns.rows, test c.schema
  routines : ∀ r ∈ s.routines.rows, test r.schema

theorem SchemasAre.add {s : Stored} {test : String → Prop} (h : s.SchemasAre test) {a : Addition}
    (ha : test a.schemaName) : (s.add a).SchemasAre test := by
  cases a with
  | schema name => exact ⟨h.relations, h.columns, h.routines⟩
  | relation schema name code =>
    exact ⟨s.relations.forall_upsert h.relations ha, h.columns, h.routines⟩
  | view schema name text =>
    exact ⟨s.relations.forall_upsert h.relations ha, h.columns, h.routines⟩
  | column schema owner name ordinal dataType nullable =>
    exact ⟨h.relations, s.columns.forall_upsert h.columns ha, h.routines⟩
  | routine schema name specificName text =>
    exact ⟨h.relations, h.columns, s.routines.forall_upsert h.routines ha⟩

/-- What holds of the schemas of additions holds of the schemas of the rows. -/
theorem schemasAre_ofAdditions {additions : List Addition} (test : String → Prop)
    (h : ∀ a ∈ additions, test a.schemaName) : (ofAdditions additions).SchemasAre test := by
  have hrun : ∀ s : Stored, s.SchemasAre test → (additions.foldl Stored.add s).SchemasAre test := by
    induction additions with
    | nil => exact fun s hs => hs
    | cons a additions ih =>
      intro s hs
      exact ih (fun b hb => h b (List.mem_cons_of_mem _ hb)) (s.add a) (hs.add (h a List.mem_cons_self))
  have hempty : ∀ {α : Type} {p : α → Prop}, ∀ x ∈ ([] : List α), p x := fun x hx => absurd hx List.not_mem_nil
  exact hrun {} ⟨hempty, hempty, hempty⟩

end Stored

/-- **The tables after some additions hold the rows that have been added.** -/
theorem Tables.filled_eq (additions : List Addition) :
    Tables.filled additions = (Stored.ofAdditions additions).tables := by
  -- the induction needs any rows to start from
  have hrun : ∀ s : Stored,
      additions.foldl (fun t a => t.after a.change) s.tables = (additions.foldl Stored.add s).tables := by
    induction additions with
    | nil => intro s; rfl
    | cons a additions ih =>
      intro s
      rw [List.foldl_cons, List.foldl_cons, Stored.tables_add, ih]
  exact hrun {}

end CatalogFinder
