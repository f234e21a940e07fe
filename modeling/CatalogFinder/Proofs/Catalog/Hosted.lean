import CatalogFinder.Proofs.Catalog.Codes
import CatalogFinder.Proofs.Catalog.Denoted
import CatalogFinder.Proofs.Tables.Served
import CatalogFinder.Proofs.Text.Digits
import CatalogFinder.Tables.Hosted

/-!
# Loading a filled catalog

A catalog that has been filled by additions can always be loaded, and each of its rows in a kept schema is found in the
cache: a relation under its name, a column in its owner, a routine under its name.

* `Stored.load_ok` : the load is not broken off;
* `Stored.relation_origin`, `routine_origin` : the rows that a cached entry comes from;
* `Stored.relation_loaded`, `column_loaded`, `routine_loaded` : what is found in the cache.
-/

namespace CatalogFinder

namespace Load

/-! ## Rows that can be read -/

theorem addSchema_ok (filter : Filter) (schemas : NameMap Schema) (name : String) :
    ∃ schemas', addSchema filter schemas (schemaRow name) = .ok schemas' := ⟨_, rfl⟩

theorem addRelation_ok (schemas : NameMap Schema) (r : RelationRow) (text : Option String) :
    ∃ schemas', addRelation schemas (r.fullRow text) = .ok schemas' := by
  have hschema : (r.fullRow text).requireTrimmed "TABSCHEMA" = .ok (Text.trimEnd r.schema) := rfl
  have hname : (r.fullRow text).require "TABNAME" = .ok r.name := rfl
  have hcode : (r.fullRow text).require "TYPE" = .ok r.code.toString := rfl
  unfold addRelation
  rw [hschema, hname, hcode]
  simp only [bind, Except.bind, pure, Except.pure]
  cases schemas.get? (Text.trimEnd r.schema) with
  | none => exact ⟨_, rfl⟩
  | some kept =>
    simp only
    split
    · exact ⟨_, rfl⟩
    · exact ⟨_, rfl⟩

theorem ordinalOf_intDigits (ordinal : UInt32) :
    ordinalOf (String.ofList (Text.intDigits ordinal.toNat)) = .ok ordinal := by
  rw [Text.intDigits_natCast, ordinalOf, Text.unsigned?_decimalDigits]
  simp only [ordinal.toNat_lt, if_true, UInt32.ofNat_toNat]

theorem addColumn_ok (schemas : NameMap Schema) (c : ColumnRow) :
    ∃ schemas', addColumn schemas c.fullRow = .ok schemas' := by
  have hschema : c.fullRow.requireTrimmed "TABSCHEMA" = .ok (Text.trimEnd c.schema) := rfl
  have howner : c.fullRow.require "TABNAME" = .ok c.owner := rfl
  have hordinal : c.fullRow.require "COLNO" = .ok (String.ofList (Text.intDigits c.ordinal.toNat)) := rfl
  have hname : c.fullRow.require "COLNAME" = .ok c.name := rfl
  have htype : c.fullRow.requireTrimmed "TYPENAME" = .ok (Text.trimEnd c.dataType) := rfl
  unfold addColumn
  rw [hschema, howner, hordinal, hname, htype]
  simp only [bind, Except.bind, pure, Except.pure, ordinalOf_intDigits]
  split
  · exact ⟨_, rfl⟩
  · exact ⟨_, rfl⟩

theorem addRoutine_ok (schemas : NameMap Schema) (r : RoutineRow) :
    ∃ schemas', addRoutine schemas r.fullRow = .ok schemas' := by
  have hschema : r.fullRow.requireTrimmed "ROUTINESCHEMA" = .ok (Text.trimEnd r.schema) := rfl
  have hname : r.fullRow.require "ROUTINENAME" = .ok r.name := rfl
  have hspecific : r.fullRow.require "SPECIFICNAME" = .ok r.specificName := rfl
  unfold addRoutine
  rw [hschema, hname, hspecific]
  simp only [bind, Except.bind, pure, Except.pure]
  split
  · exact ⟨_, rfl⟩
  · exact ⟨_, rfl⟩

end Load

/-! ## Rows as a load is served them -/

theorem RelationRow.isIn_fullRow (r : RelationRow) (text : Option String) (schema : String) :
    (r.fullRow text).isIn "TABSCHEMA" schema = decide (Text.trimEnd r.schema = schema) := Row.isIn_eq rfl schema

theorem RelationRow.isRelation_fullRow (r : RelationRow) (text : Option String) (name : String) :
    (r.fullRow text).isRelation name =
      (decide (r.name = name) && (TypeCodes.standard.categoryFor? r.code.toString).isSome) := by
  have hname : (r.fullRow text).holds "TABNAME" name = decide (r.name = name) := Row.holds_eq rfl name
  have hcode : (r.fullRow text).get? "TYPE" = some r.code.toString := rfl
  rw [Row.isRelation, hname, hcode, Option.bind_some]

theorem RelationRow.of_isFrom {r : RelationRow} {text : Option String} {relation : Relation}
    (h : relation.IsFrom (r.fullRow text)) :
    relation.name = r.name ∧ TypeCodes.standard.categoryFor? r.code.toString = some relation.category := by
  have hname : (r.fullRow text).get? "TABNAME" = some r.name := rfl
  have hcode : (r.fullRow text).get? "TYPE" = some r.code.toString := rfl
  have hfrom := h.name
  have hcategory := h.category
  rw [hname, Option.some_inj] at hfrom
  rw [hcode, Option.bind_some] at hcategory
  exact ⟨hfrom.symm, hcategory⟩

theorem RoutineRow.isIn_fullRow (r : RoutineRow) (schema : String) :
    r.fullRow.isIn "ROUTINESCHEMA" schema = decide (Text.trimEnd r.schema = schema) := Row.isIn_eq rfl schema

theorem RoutineRow.holds_fullRow (r : RoutineRow) (name : String) :
    r.fullRow.holds "ROUTINENAME" name = decide (r.name = name) := Row.holds_eq rfl name

/-- The column that a row is loaded as. -/
def ColumnRow.column (c : ColumnRow) : Column := ⟨c.name, c.ordinal, Text.trimEnd c.dataType, c.nullable⟩

@[simp] theorem ColumnRow.name_column (c : ColumnRow) : c.column.name = c.name := rfl

theorem ColumnRow.column_eq_of_isFrom {c : ColumnRow} {column : Column} (h : column.IsFrom c.fullRow) :
    c.column = column := by
  have hname : c.name = column.name := Option.some.inj h.name
  have hordinal : c.ordinal = column.ordinal := by
    have htext : Text.unsigned? (String.ofList (Text.intDigits c.ordinal.toNat)) = some column.ordinal.toNat :=
      h.ordinal
    rw [Text.intDigits_natCast, Text.unsigned?_decimalDigits, Option.some_inj] at htext
    exact UInt32.toNat_inj.1 htext
  have hdataType : Text.trimEnd c.dataType = column.dataType := Option.some.inj h.dataType
  have hnullable : c.nullable = column.nullable := by
    have hnulls : c.fullRow.get? "NULLS" = some (if c.nullable then "Y" else "N") := rfl
    have hyes : Text.trim "Y" = "Y" := by decide
    have hno : Text.trim "N" ≠ "Y" := by decide
    rw [Bool.eq_iff_iff, h.nullable, hnulls]
    cases c.nullable <;> simp [hyes, hno]
  rw [ColumnRow.column, hname, hordinal, hdataType, hnullable]

namespace Stored

variable (s : Stored) (name : String) (defaultSchema : Option String)

abbrev session : Session := HostedCatalog.session ⟨name, defaultSchema, s.tables, false⟩

section Replies
variable (q : Query)

theorem reply_schemata (h : q.request = .schemata) : (s.session name defaultSchema).reply q =
    ⟨(sortedBy compare s.schemata.rows).map schemaRow, none⟩ := by
  show s.tables.reply q.request = _
  rw [h, Tables.reply, served_schemata]

theorem reply_relations (h : q.request = .relations) : (s.session name defaultSchema).reply q =
    ⟨(sortedBy RelationRow.cmp s.relations.rows).map fun r => r.fullRow (s.viewText? r), none⟩ := by
  show s.tables.reply q.request = _
  rw [h, Tables.reply, served_relations]

theorem reply_columns (h : q.request = .columns) : (s.session name defaultSchema).reply q =
    ⟨(sortedBy ColumnRow.cmp s.columns.rows).map ColumnRow.fullRow, none⟩ := by
  show s.tables.reply q.request = _
  rw [h, Tables.reply, served_columns]

theorem reply_routines (h : q.request = .routines) : (s.session name defaultSchema).reply q =
    ⟨(sortedBy RoutineRow.cmp s.routines.rows).map RoutineRow.fullRow, none⟩ := by
  show s.tables.reply q.request = _
  rw [h, Tables.reply, served_routines]

end Replies

/-- **A filled catalog can be loaded.** -/
theorem load_ok (filter : Filter) (fetchSize : UInt32) :
    ∃ cache, load (s.session name defaultSchema) filter fetchSize = .ok cache := by
  obtain ⟨first, hfirst⟩ := Load.exists_reads (s.reply_schemata name defaultSchema _ rfl)
    (List.forall_mem_map.2 fun schema _ schemas => Load.addSchema_ok filter schemas schema) ∅
  obtain ⟨second, hsecond⟩ := Load.exists_reads (s.reply_relations name defaultSchema _ rfl)
    (List.forall_mem_map.2 fun r _ schemas => Load.addRelation_ok schemas r _) first
  obtain ⟨third, hthird⟩ := Load.exists_reads (s.reply_columns name defaultSchema _ rfl)
    (List.forall_mem_map.2 fun c _ schemas => Load.addColumn_ok schemas c) second
  obtain ⟨last, hlast⟩ := Load.exists_reads (s.reply_routines name defaultSchema _ rfl)
    (List.forall_mem_map.2 fun r _ schemas => Load.addRoutine_ok schemas r) third
  exact ⟨⟨last⟩, Load.load_eq_ok.2 ⟨first, second, third, hfirst, hsecond, hthird, hlast⟩⟩

/-! ## Where a cached entry comes from -/

/-- The rows of one schema, among those of a table that are served in some order. -/
theorem mem_filter_isIn {α : Type} {cmp : α → α → Ordering} {l : List α} {rowOf : α → Row} {schemaOf : α → String}
    {column schema : String}
    (hisIn : ∀ a, (rowOf a).isIn column schema = decide (Text.trimEnd (schemaOf a) = schema)) {row : Row} :
    row ∈ ((sortedBy cmp l).map rowOf).filter (·.isIn column schema) ↔
      ∃ a ∈ l, Text.trimEnd (schemaOf a) = schema ∧ rowOf a = row := by
  rw [List.mem_filter, List.mem_map]
  constructor
  · rintro ⟨⟨a, ha, rfl⟩, hschema⟩
    rw [hisIn, decide_eq_true_eq] at hschema
    exact ⟨a, mem_sortedBy.1 ha, hschema, rfl⟩
  · rintro ⟨a, ha, hschema, rfl⟩
    rw [hisIn, decide_eq_true_eq]
    exact ⟨⟨a, mem_sortedBy.2 ha, rfl⟩, hschema⟩

section Rows
variable (fetchSize : UInt32) (schema : String) {row : Row}

theorem mem_relationRows : row ∈ (Load.rowsOf (s.session name defaultSchema) fetchSize .relations).filter
    (·.isIn "TABSCHEMA" schema) ↔
      ∃ r ∈ s.relations.rows, Text.trimEnd r.schema = schema ∧ r.fullRow (s.viewText? r) = row := by
  rw [Load.rowsOf, s.reply_relations name defaultSchema _ rfl]
  exact mem_filter_isIn fun r => r.isIn_fullRow _ schema

theorem mem_routineRows : row ∈ (Load.rowsOf (s.session name defaultSchema) fetchSize .routines).filter
    (·.isIn "ROUTINESCHEMA" schema) ↔ ∃ r ∈ s.routines.rows, Text.trimEnd r.schema = schema ∧ r.fullRow = row := by
  rw [Load.rowsOf, s.reply_routines name defaultSchema _ rfl]
  exact mem_filter_isIn fun r => r.isIn_fullRow schema

/-- The columns of an owner, in the order in which a load is served them. -/
def columnsOf (s : Stored) (schema owner : String) : List ColumnRow :=
  (sortedBy ColumnRow.cmp s.columns.rows).filter fun c => Text.trimEnd c.schema = schema && c.owner = owner

theorem mem_columnsOf {s : Stored} {schema owner : String} {c : ColumnRow} :
    c ∈ s.columnsOf schema owner ↔ c ∈ s.columns.rows ∧ Text.trimEnd c.schema = schema ∧ c.owner = owner := by
  simp [columnsOf, mem_sortedBy]

theorem columnRows_eq (owner : String) : ((Load.rowsOf (s.session name defaultSchema) fetchSize .columns).filter
    (·.isIn "TABSCHEMA" schema)).filter (·.holds "TABNAME" owner) =
      (s.columnsOf schema owner).map ColumnRow.fullRow := by
  rw [Load.rowsOf, s.reply_columns name defaultSchema _ rfl, List.filter_filter, List.filter_map, columnsOf]
  refine congrArg (List.map _) (List.filter_congr fun c _ => ?_)
  have hschema : c.fullRow.isIn "TABSCHEMA" schema = decide (Text.trimEnd c.schema = schema) := Row.isIn_eq rfl schema
  have howner : c.fullRow.holds "TABNAME" owner = decide (c.owner = owner) := Row.holds_eq rfl owner
  rw [Function.comp_apply, hschema, howner, Bool.and_comm]

end Rows

section Origin
variable {s name defaultSchema} {filter : Filter} {fetchSize : UInt32} {cache : Cache} {schema : String} {kept : Schema}

theorem name_kept (h : load (s.session name defaultSchema) filter fetchSize = .ok cache)
    (hkept : cache.schema? schema = some kept) : kept.name = schema := (Load.schema_denotes h hkept).1

/-- A cached relation comes from a row of its name, and has the columns of that owner. -/
theorem relation_origin (h : load (s.session name defaultSchema) filter fetchSize = .ok cache)
    (hkept : cache.schema? schema = some kept) {n : String} {r : Relation} (hr : kept.relation? n = some r) :
    r.name = n ∧ r.columns = (s.columnsOf schema n).map ColumnRow.column ∧
      ∃ row ∈ s.relations.rows, Text.trimEnd row.schema = schema ∧ row.name = n ∧
        TypeCodes.standard.categoryFor? row.code.toString = some r.category := by
  obtain ⟨hname, ⟨row, hrow, hfrom⟩, hcolumns, -⟩ := (Load.schema_denotes h hkept).2.relation hr
  rw [columnRows_eq, List.forall₂_map_left_iff] at hcolumns
  refine ⟨hname, ?_, ?_⟩
  · have hsame : List.Forall₂ (· = ·) ((s.columnsOf schema n).map ColumnRow.column) r.columns :=
      List.forall₂_map_left_iff.2 (hcolumns.imp fun _ _ => ColumnRow.column_eq_of_isFrom)
    rw [List.forall₂_eq_eq_eq] at hsame
    exact hsame.symm
  · obtain ⟨a, ha, hschema, rfl⟩ := (s.mem_relationRows ..).1 (List.mem_filter.1 (List.mem_of_getLast? hrow)).1
    obtain ⟨haname, hcategory⟩ := RelationRow.of_isFrom hfrom
    exact ⟨a, ha, hschema, haname.symm.trans hname, hcategory⟩

theorem routine_origin (h : load (s.session name defaultSchema) filter fetchSize = .ok cache)
    (hkept : cache.schema? schema = some kept) {n : String} {r : Routine} (hr : kept.routine? n = some r) :
    r.name = n ∧ ∃ row ∈ s.routines.rows, Text.trimEnd row.schema = schema ∧ row.name = n := by
  have hdenotes := (Load.schema_denotes h hkept).2
  refine ⟨(hdenotes.routine hr).1, ?_⟩
  obtain ⟨row, hrow, hholds⟩ := (hdenotes.isSome_routine? n).1 (by rw [hr]; rfl)
  obtain ⟨a, ha, hschema, rfl⟩ := (s.mem_routineRows ..).1 hrow
  rw [a.holds_fullRow, decide_eq_true_eq] at hholds
  exact ⟨a, ha, hschema, hholds⟩

end Origin

/-! ## What is found in the cache -/

section Found
variable {s name defaultSchema} {filter : Filter} {fetchSize : UInt32} {cache : Cache} {kept : Schema}

/-- A relation of a known code is found under its name, if the other relations of its schema are stored under the same
text as it is. -/
theorem relation_loaded (h : load (s.session name defaultSchema) filter fetchSize = .ok cache) {r : RelationRow}
    (hr : r ∈ s.relations.rows) (hkept : cache.schema? (Text.trimEnd r.schema) = some kept) {c : Category}
    (hcategory : TypeCodes.standard.categoryFor? r.code.toString = some c)
    (hschema : ∀ a ∈ s.relations.rows, Text.trimEnd a.schema = Text.trimEnd r.schema → a.schema = r.schema) :
    ∃ relation, kept.relation? r.name = some relation ∧ relation.name = r.name ∧ relation.category = c := by
  have hdescribes : (r.fullRow (s.viewText? r)).isRelation r.name = true := by
    rw [r.isRelation_fullRow, hcategory, decide_eq_true rfl, Option.isSome_some, Bool.and_true]
  have hsome : (kept.relation? r.name).isSome = true :=
    ((Load.schema_denotes h hkept).2.isSome_relation? r.name).2
      ⟨_, (s.mem_relationRows ..).2 ⟨r, hr, rfl, rfl⟩, hdescribes⟩
  obtain ⟨relation, hrelation⟩ := Option.isSome_iff_exists.1 hsome
  -- the relation that is found was made from a row of the same key, and that is the row itself
  obtain ⟨hname, -, a, ha, htrim, haname, hcode⟩ := relation_origin h hkept hrelation
  have heq : a = r := s.relations.eq_of_key ha hr (Prod.ext (hschema a ha htrim) haname)
  rw [heq, hcategory] at hcode
  exact ⟨relation, hrelation, hname, (Option.some.inj hcode).symm⟩

/-- A column is found in its owner, if that is kept. -/
theorem column_loaded (h : load (s.session name defaultSchema) filter fetchSize = .ok cache) {c : ColumnRow}
    (hc : c ∈ s.columns.rows) (hkept : cache.schema? (Text.trimEnd c.schema) = some kept) {relation : Relation}
    (hrelation : kept.relation? c.owner = some relation) :
    ∃ column, relation.column? c.name = some column ∧ column.name = c.name := by
  have hmem : c.column ∈ relation.columns := by
    rw [(relation_origin h hkept hrelation).2.1]
    exact List.mem_map_of_mem (mem_columnsOf.2 ⟨hc, rfl, rfl⟩)
  obtain ⟨column, -, hfind, htest⟩ := exists_find? (fun column => column.name == c.name) hmem (by simp)
  exact ⟨column, hfind, by simpa using htest⟩

theorem routine_loaded (h : load (s.session name defaultSchema) filter fetchSize = .ok cache) {r : RoutineRow}
    (hr : r ∈ s.routines.rows) (hkept : cache.schema? (Text.trimEnd r.schema) = some kept) :
    ∃ routine, kept.routine? r.name = some routine ∧ routine.name = r.name := by
  have hdescribes : r.fullRow.holds "ROUTINENAME" r.name = true := by rw [r.holds_fullRow, decide_eq_true rfl]
  have hsome : (kept.routine? r.name).isSome = true :=
    ((Load.schema_denotes h hkept).2.isSome_routine? r.name).2
      ⟨_, (s.mem_routineRows ..).2 ⟨r, hr, rfl, rfl⟩, hdescribes⟩
  obtain ⟨routine, hroutine⟩ := Option.isSome_iff_exists.1 hsome
  exact ⟨routine, hroutine, (routine_origin h hkept hroutine).1⟩

end Found

end Stored

end CatalogFinder
