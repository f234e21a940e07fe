import CatalogFinder.Proofs.Catalog.Codes
import CatalogFinder.Proofs.Catalog.Scans
import Mathlib.Data.List.Forall2

/-!
# What a cache says of the rows that it was loaded from

The cache of a load that is not broken off can be told from the rows alone. Its schemas are the accepted ones; in each,
a relation is the last one described under its name, with all the columns of that owner, and a routine has all the
overloads of its name. Rows that name another schema, or that describe nothing, leave no trace.

* `Relation.IsFrom`, `Column.IsFrom`, `Routine.IsFrom` : an entry of a schema says what its rows say;
* `Schema.Denotes`, `Cache.Denotes` : the entries are these, and there are no others;
* `Load.relationEdit_cases`, `columnEdit_cases`, `routineEdit_cases` : what a row does to its schema;
* `Load.relation?_of_relationRows`, `relation?_of_columnRows`, `routine?_of_routineRows` : what a scan does to it;
* `Load.schema_denotes`, `load_denotes` : a kept schema denotes its rows, a loaded cache the rows of the replies.
-/

namespace CatalogFinder

/-! ## Entries and rows -/

namespace Row

/-- The row has the text in the column. -/
def holds (column text : String) (row : Row) : Bool := row.get? column = some text

/-- The row describes a relation of the name: it has a code, and the code is known. -/
def isRelation (name : String) (row : Row) : Bool :=
  row.holds "TABNAME" name && ((row.get? "TYPE").bind TypeCodes.standard.categoryFor?).isSome

end Row

/-- The relation is the one that a row describes, with no regard to columns. -/
structure Relation.IsFrom (row : Row) (r : Relation) : Prop where
  name : row.get? "TABNAME" = some r.name
  category : (row.get? "TYPE").bind TypeCodes.standard.categoryFor? = some r.category
  typeCode : (row.get? "TYPE").bind (fun code => (Text.trim code).toList.head?) = some r.typeCode
  definition : r.definition = row.get? "TEXT"

/-- The column is the one that a row describes. -/
structure Column.IsFrom (row : Row) (c : Column) : Prop where
  name : row.get? "COLNAME" = some c.name
  ordinal : (row.get? "COLNO").bind Text.unsigned? = some c.ordinal.toNat
  dataType : (row.get? "TYPENAME").map Text.trimEnd = some c.dataType
  nullable : c.nullable = true ↔ ∀ text, row.get? "NULLS" = some text → Text.trim text = "Y"

/-- The routine has the overloads that rows describe, and the first text among them. -/
structure Routine.IsFrom (rows : List Row) (r : Routine) : Prop where
  specificNames : rows.map (·.get? "SPECIFICNAME") = r.specificNames.map some
  text : r.text = rows.findSome? (·.get? "TEXT")

/-- The schema holds what its rows describe, and nothing else. -/
structure Schema.Denotes (s : Schema) (relations columns routines : List Row) : Prop where
  isSome_relation? (name : String) : (s.relation? name).isSome = true ↔ ∃ row ∈ relations, row.isRelation name = true
  relation {name : String} {r : Relation} : s.relation? name = some r → r.name = name ∧
    (∃ row, (relations.filter (·.isRelation name)).getLast? = some row ∧ r.IsFrom row) ∧
    List.Forall₂ Column.IsFrom (columns.filter (·.holds "TABNAME" name)) r.columns ∧
    TypeCodes.standard.categoryFor? r.typeCode.toString = some r.category
  isSome_routine? (name : String) :
    (s.routine? name).isSome = true ↔ ∃ row ∈ routines, row.holds "ROUTINENAME" name = true
  routine {name : String} {r : Routine} : s.routine? name = some r → r.name = name ∧
    r.IsFrom (routines.filter (·.holds "ROUTINENAME" name))

/-- The cache holds the accepted schemas, and each of them what its rows describe. -/
structure Cache.Denotes (c : Cache) (filter : Filter) (rows : Request → List Row) : Prop where
  isSome_schema? (name : String) : (c.schema? name).isSome = true ↔
    filter.accepts name = true ∧ ∃ row ∈ rows .schemata, row.isIn "SCHEMANAME" name = true
  schema {name : String} {s : Schema} : c.schema? name = some s → s.name = name ∧
    s.Denotes ((rows .relations).filter (·.isIn "TABSCHEMA" name)) ((rows .columns).filter (·.isIn "TABSCHEMA" name))
      ((rows .routines).filter (·.isIn "ROUTINESCHEMA" name))

theorem Row.holds_eq {column text : String} {row : Row} (h : row.get? column = some text) (name : String) :
    row.holds column name = decide (text = name) := by
  simp [holds, h]

theorem Relation.IsFrom.categoryFor?_typeCode {row : Row} {r : Relation} (h : r.IsFrom row) :
    TypeCodes.standard.categoryFor? r.typeCode.toString = some r.category := by
  obtain ⟨raw, hraw, hcategory⟩ := Option.bind_eq_some_iff.1 h.category
  have hcode := h.typeCode
  rw [hraw, Option.bind_some] at hcode
  rw [TypeCodes.categoryFor?, hcode, Option.bind_some] at hcategory
  exact (TypeCodes.categoryFor?_iff _ _).2 (TypeCodes.mem_of_lookup hcategory)

theorem Relation.IsFrom.isRelation_eq {row : Row} {r : Relation} (h : r.IsFrom row) (name : String) :
    row.isRelation name = decide (r.name = name) := by
  rw [Row.isRelation, Row.holds_eq h.name, h.category, Option.isSome_some, Bool.and_true]

namespace Load

/-! ## One row -/

section Rows
variable {kept later : Schema} {row : Row}

/-- A row of a relation adds the one that it describes, if it describes any. -/
theorem relationEdit_cases (h : relationEdit.change kept row = .ok later) :
    (∃ r : Relation, r.IsFrom row ∧ r.columns = [] ∧ later = kept.addRelation r) ∨
      (∀ name, row.isRelation name = false) ∧ later = kept := by
  obtain ⟨name, hname, h⟩ := bind_eq_ok h
  obtain ⟨code, hcode, h⟩ := bind_eq_ok h
  rw [Row.require_eq_ok] at hname hcode
  have hnone : TypeCodes.standard.categoryFor? code = none → ∀ name, row.isRelation name = false := by
    intro hcategory name
    rw [Row.isRelation, hcode, Option.bind_some, hcategory, Option.isSome_none, Bool.and_false]
  cases hcategory : TypeCodes.standard.categoryFor? code with
  | none =>
    rw [hcategory] at h
    cases h
    exact .inr ⟨hnone hcategory, rfl⟩
  | some category =>
    cases hchars : (Text.trim code).toList with
    | nil =>
      rw [TypeCodes.categoryFor?, hchars] at hcategory
      cases hcategory
    | cons typeCode more =>
      rw [hcategory, hchars] at h
      cases h
      refine .inl ⟨_, ⟨hname, ?_, ?_, rfl⟩, rfl, rfl⟩
      · rw [hcode, Option.bind_some, hcategory]
      · rw [hcode, Option.bind_some, hchars, List.head?_cons]

theorem unsigned?_of_ordinalOf {text : String} {ordinal : UInt32} (h : ordinalOf text = .ok ordinal) :
    Text.unsigned? text = some ordinal.toNat := by
  unfold ordinalOf at h
  cases hn : Text.unsigned? text with
  | none => simp [hn] at h
  | some n =>
    simp only [hn] at h
    split at h
    next hlt =>
      cases h
      rw [UInt32.toNat_ofNat_of_lt' hlt]
    next => cases h

theorem isFrom_of_readColumn {column : Column} (h : readColumn row = .ok column) : column.IsFrom row := by
  obtain ⟨text, htext, h⟩ := bind_eq_ok h
  obtain ⟨ordinal, hordinal, h⟩ := bind_eq_ok h
  obtain ⟨name, hname, h⟩ := bind_eq_ok h
  obtain ⟨dataType, hdataType, h⟩ := bind_eq_ok h
  cases h
  rw [Row.require_eq_ok] at htext hname
  refine ⟨hname, ?_, Row.requireTrimmed_eq_ok.1 hdataType, ?_⟩
  · rw [htext, Option.bind_some, unsigned?_of_ordinalOf hordinal]
  · cases row.get? "NULLS" with
    | none => simp
    | some nulls => simp

/-- A row of a column adds it to its owner, if that is there. -/
theorem columnEdit_cases (h : columnEdit.change kept row = .ok later) :
    ∃ owner, row.get? "TABNAME" = some owner ∧
      (kept.relation? owner = none ∧ later = kept ∨
        ∃ column : Column, column.IsFrom row ∧ later = kept.addColumn owner column) := by
  obtain ⟨owner, howner, h⟩ := bind_eq_ok h
  refine ⟨owner, Row.require_eq_ok.1 howner, ?_⟩
  cases hrelation : kept.relation? owner with
  | none =>
    rw [hrelation] at h
    cases h
    exact .inl ⟨rfl, rfl⟩
  | some r =>
    rw [hrelation] at h
    obtain ⟨column, hcolumn, h⟩ := bind_eq_ok h
    cases h
    exact .inr ⟨column, isFrom_of_readColumn hcolumn, rfl⟩

theorem routineEdit_cases (h : routineEdit.change kept row = .ok later) :
    ∃ name specificName, row.get? "ROUTINENAME" = some name ∧ row.get? "SPECIFICNAME" = some specificName ∧
      later = kept.addRoutine name specificName (row.get? "TEXT") := by
  obtain ⟨name, hname, h⟩ := bind_eq_ok h
  obtain ⟨specificName, hspecific, h⟩ := bind_eq_ok h
  cases h
  exact ⟨name, specificName, Row.require_eq_ok.1 hname, Row.require_eq_ok.1 hspecific, rfl⟩

end Rows

/-! ## The rows of a scan -/

section Scans
variable {s s' : Schema} {rows : List Row} {name : String}

theorem foldlM_keeps {change : Schema → Row → Except SessionError Schema} {α : Type} (f : Schema → α)
    (hf : ∀ {kept later row}, change kept row = .ok later → f later = f kept)
    (h : rows.foldlM change s = .ok s') : f s' = f s :=
  foldlM_induct (motive := fun _ now => f now = f s) (fun hnow hrow => (hf hrow).trans hnow) rfl h

theorem relationEdit_keeps {kept later : Schema} {row : Row} (h : relationEdit.change kept row = .ok later) :
    (later.name, later.routine?) = (kept.name, kept.routine?) := by
  obtain ⟨r, -, -, rfl⟩ | ⟨-, rfl⟩ := relationEdit_cases h
  · rfl
  · rfl

theorem columnEdit_keeps {kept later : Schema} {row : Row} (h : columnEdit.change kept row = .ok later) :
    (later.name, later.routine?) = (kept.name, kept.routine?) := by
  obtain ⟨owner, -, ⟨-, rfl⟩ | ⟨column, -, rfl⟩⟩ := columnEdit_cases h
  · rfl
  · rfl

theorem routineEdit_keeps {kept later : Schema} {row : Row} (h : routineEdit.change kept row = .ok later) :
    (later.name, later.relation?) = (kept.name, kept.relation?) := by
  obtain ⟨routine, specificName, -, -, rfl⟩ := routineEdit_cases h
  rfl

/-- The last relation of a name is there. -/
theorem relation?_of_relationRows (hs : s.relation? name = none) (h : rows.foldlM relationEdit.change s = .ok s') :
    Option.Rel (fun row r => Relation.IsFrom row r ∧ r.columns = []) (rows.filter (·.isRelation name)).getLast?
      (s'.relation? name) := by
  refine foldlM_induct (motive := fun (done : List Row) (now : Schema) =>
    Option.Rel (fun row r => Relation.IsFrom row r ∧ r.columns = []) (done.filter (·.isRelation name)).getLast?
      (now.relation? name)) ?_ (by rw [hs]; exact .none) h
  intro done row now later hnow hrow
  rw [List.filter_append, List.filter_cons, List.filter_nil]
  obtain ⟨r, hr, hcolumns, rfl⟩ | ⟨hnot, rfl⟩ := relationEdit_cases hrow
  · -- a row of the name is the last one now, and its relation takes the place of any before it
    rw [Schema.relation?_addRelation, hr.isRelation_eq]
    by_cases hname : name = r.name
    · simpa [hname] using Option.Rel.some ⟨hr, hcolumns⟩
    · simpa [hname, Ne.symm hname] using hnow
  · simpa [hnot name] using hnow

/-- The columns of an owner are added behind those that it had. -/
theorem relation?_of_columnRows (h : rows.foldlM columnEdit.change s = .ok s') (name : String) :
    Option.Rel (fun r r' => ∃ columns, List.Forall₂ Column.IsFrom (rows.filter (·.holds "TABNAME" name)) columns ∧
      r' = { r with columns := r.columns ++ columns }) (s.relation? name) (s'.relation? name) := by
  refine foldlM_induct (motive := fun (done : List Row) (now : Schema) =>
    Option.Rel (fun (r r' : Relation) => ∃ columns,
      List.Forall₂ Column.IsFrom (done.filter (·.holds "TABNAME" name)) columns ∧
        r' = { r with columns := r.columns ++ columns }) (s.relation? name) (now.relation? name)) ?_ ?_ h
  · intro done row now later hnow hrow
    rw [List.filter_append, List.filter_cons, List.filter_nil]
    obtain ⟨owner, howner, ⟨hnone, rfl⟩ | ⟨column, hcolumn, rfl⟩⟩ := columnEdit_cases hrow
    · by_cases hname : owner = name
      · -- the owner has not been there from the start
        rw [← hname, hnone] at hnow ⊢
        generalize s.relation? owner = start at hnow ⊢
        cases hnow
        exact .none
      · simpa [Row.holds_eq howner, hname] using hnow
    · rw [Schema.relation?_addColumn]
      by_cases hname : owner = name
      · rw [if_pos hname.symm, Row.holds_eq howner, decide_eq_true hname]
        generalize s.relation? name = start at hnow ⊢
        generalize now.relation? name = added at hnow ⊢
        cases hnow with
        | none => exact .none
        | some hrelation =>
          obtain ⟨columns, hcolumns, rfl⟩ := hrelation
          exact .some ⟨columns ++ [column], List.rel_append hcolumns (.cons hcolumn .nil),
            by simp only [List.append_assoc]⟩
      · rw [if_neg (Ne.symm hname)]
        simpa [Row.holds_eq howner, hname] using hnow
  · cases s.relation? name with
    | none => exact .none
    | some r => exact .some ⟨[], .nil, by rw [List.append_nil]⟩

/-- All overloads of a name are there. -/
theorem routine?_of_routineRows (hs : s.routine? name = none) (h : rows.foldlM routineEdit.change s = .ok s') :
    ((s'.routine? name).isSome = true ↔ ∃ row ∈ rows, row.holds "ROUTINENAME" name = true) ∧
      ((s'.routine? name).getD { name := name }).name = name ∧
        Routine.IsFrom (rows.filter (·.holds "ROUTINENAME" name)) ((s'.routine? name).getD { name := name }) := by
  -- a routine that is not there yet counts as one of that name without overloads
  refine foldlM_induct (motive := fun (done : List Row) (now : Schema) =>
    ((now.routine? name).isSome = true ↔ ∃ row ∈ done, row.holds "ROUTINENAME" name = true) ∧
      ((now.routine? name).getD { name := name }).name = name ∧
        Routine.IsFrom (done.filter (·.holds "ROUTINENAME" name)) ((now.routine? name).getD { name := name })) ?_ ?_ h
  · rintro done row now later ⟨hsome, hname, hfrom⟩ hrow
    obtain ⟨routine, specificName, hroutine, hspecific, rfl⟩ := routineEdit_cases hrow
    rw [Schema.routine?_addRoutine, List.filter_append, List.filter_cons, List.filter_nil]
    by_cases heq : name = routine
    · subst heq
      have hholds : row.holds "ROUTINENAME" name = true := by simp [Row.holds_eq hroutine]
      rw [if_pos rfl, if_pos hholds, Option.getD_some]
      refine ⟨⟨fun _ => ⟨row, by simp, hholds⟩, fun _ => rfl⟩, hname, ?_, ?_⟩
      · rw [List.map_append, List.map_singleton, hfrom.specificNames, hspecific, Routine.addOverload,
          List.map_append, List.map_singleton]
      · rw [List.findSome?_append, ← hfrom.text, List.findSome?_singleton, Option.or_eq_orElse]
        rfl
    · have hholds : row.holds "ROUTINENAME" name = false := by simp [Row.holds_eq hroutine, Ne.symm heq]
      rw [if_neg heq, hholds]
      refine ⟨?_, hname, by simpa using hfrom⟩
      rw [hsome]
      simp [hholds]
  · rw [hs]
    exact ⟨by simp, rfl, rfl, rfl⟩

end Scans

/-- The kept schemas are the accepted ones, all of them empty. -/
theorem get?_of_schemaRows {filter : Filter} {rows : List Row} {schemas : NameMap Schema}
    (h : rows.foldlM (addSchema filter) ∅ = .ok schemas) (name : String) :
    ((schemas.get? name).isSome = true ↔ filter.accepts name = true ∧ ∃ row ∈ rows, row.isIn "SCHEMANAME" name = true) ∧
      ∀ s, schemas.get? name = some s → s = { name := name } := by
  refine foldlM_induct (motive := fun (done : List Row) (now : NameMap Schema) =>
    ((now.get? name).isSome = true ↔ filter.accepts name = true ∧ ∃ row ∈ done, row.isIn "SCHEMANAME" name = true) ∧
      ∀ s, now.get? name = some s → s = { name := name }) ?_ ?_ h
  · rintro done row now later ⟨hsome, hempty⟩ hrow
    obtain ⟨schema, hschema, hrow⟩ := bind_eq_ok hrow
    cases hrow
    have hisIn := Row.isIn_of_requireTrimmed hschema name
    by_cases hname : schema = name
    · subst hname
      cases haccepts : filter.accepts schema with
      | true =>
        rw [if_pos rfl, NameMap.get?_insert_self]
        refine ⟨⟨fun _ => ⟨rfl, row, by simp, by simp [hisIn]⟩, fun _ => rfl⟩, ?_⟩
        rintro s ⟨⟩
        rfl
      | false =>
        rw [haccepts] at hsome
        exact ⟨by simpa using hsome, hempty⟩
    · have hsame : (if filter.accepts schema then now.insert schema { name := schema } else now).get? name =
          now.get? name := by
        split
        next => rw [NameMap.get?_insert, if_neg (Ne.symm hname)]
        next => rfl
      rw [hsame]
      refine ⟨?_, hempty⟩
      rw [hsome]
      simp [hisIn, hname]
  · have hnone : (∅ : NameMap Schema).get? name = none := rfl
    rw [hnone]
    exact ⟨by simp, fun s hs => by cases hs⟩

/-! ## A whole load -/

section Whole
variable {relations columns routines : List Row} {first second last : Schema}

/-- Where there was no relation, the last one of each name is there now, with all its columns. -/
theorem relation?_of_rows (name : String) {s : Schema} (hs : s.relation? name = none)
    (hrelations : relations.foldlM relationEdit.change s = .ok first)
    (hcolumns : columns.foldlM columnEdit.change first = .ok second) :
    Option.Rel (fun row r => Relation.IsFrom row r ∧
        List.Forall₂ Column.IsFrom (columns.filter (·.holds "TABNAME" name)) r.columns)
      (relations.filter (·.isRelation name)).getLast? (second.relation? name) := by
  have hbare := relation?_of_relationRows hs hrelations
  have hfull := relation?_of_columnRows hcolumns name
  generalize first.relation? name = bare? at hbare hfull
  generalize second.relation? name = full? at hfull ⊢
  generalize (relations.filter (·.isRelation name)).getLast? = row? at hbare ⊢
  cases hbare with
  | none =>
    cases hfull
    exact .none
  | some hbare =>
    cases hfull with
    | some hfull =>
      obtain ⟨own, hown, rfl⟩ := hfull
      refine .some ⟨⟨hbare.1.name, hbare.1.category, hbare.1.typeCode, hbare.1.definition⟩, ?_⟩
      simpa only [hbare.2, List.nil_append] using hown

/-- A schema that has been empty denotes the rows that have changed it. -/
theorem denotes_of_foldlM {name : String}
    (hrelations : relations.foldlM relationEdit.change { name := name } = .ok first)
    (hcolumns : columns.foldlM columnEdit.change first = .ok second)
    (hroutines : routines.foldlM routineEdit.change second = .ok last) :
    last.name = name ∧ last.Denotes relations columns routines := by
  obtain ⟨hfirst, hfirstRoutines⟩ :=
    Prod.ext_iff.1 (foldlM_keeps (fun s => (s.name, s.routine?)) relationEdit_keeps hrelations)
  obtain ⟨hsecond, hsecondRoutines⟩ :=
    Prod.ext_iff.1 (foldlM_keeps (fun s => (s.name, s.routine?)) columnEdit_keeps hcolumns)
  obtain ⟨hlast, hlastRelations⟩ :=
    Prod.ext_iff.1 (foldlM_keeps (fun s => (s.name, s.relation?)) routineEdit_keeps hroutines)
  simp only at hfirst hfirstRoutines hsecond hsecondRoutines hlast hlastRelations
  have hnone : ∀ n, second.routine? n = none := by
    intro n
    rw [hsecondRoutines, hfirstRoutines]
    rfl
  have hfound := fun n => relation?_of_rows n rfl hrelations hcolumns
  rw [← hlastRelations] at hfound
  refine ⟨by rw [hlast, hsecond, hfirst], ?_, ?_, ?_, ?_⟩
  · intro n
    rw [isSome_of_rel (hfound n), List.getLast?_isSome, Ne, List.filter_eq_nil_iff]
    simp
  · intro n r hr
    obtain ⟨row, hrow, hfrom, hown⟩ := exists_of_rel (hfound n) hr
    have hname : row.isRelation n = true := (List.mem_filter.1 (List.mem_of_getLast? hrow)).2
    rw [hfrom.isRelation_eq, decide_eq_true_eq] at hname
    exact ⟨hname, ⟨row, hrow, hfrom⟩, hown, hfrom.categoryFor?_typeCode⟩
  · intro n
    exact (routine?_of_routineRows (hnone n) hroutines).1
  · intro n r hr
    have hroutine := (routine?_of_routineRows (hnone n) hroutines).2
    rw [hr] at hroutine
    exact hroutine

end Whole

end Load

theorem Load.schema_denotes {session : Session} {filter : Filter} {fetchSize : UInt32} {cache : Cache}
    (h : load session filter fetchSize = .ok cache) {name : String} {s : Schema} (hs : cache.schema? name = some s) :
    s.name = name ∧ s.Denotes ((rowsOf session fetchSize .relations).filter (·.isIn "TABSCHEMA" name))
      ((rowsOf session fetchSize .columns).filter (·.isIn "TABSCHEMA" name))
      ((rowsOf session fetchSize .routines).filter (·.isIn "ROUTINESCHEMA" name)) := by
  obtain ⟨first, hschemata, hmakes⟩ := makes_of_load h
  obtain ⟨second, third, hrelations, hcolumns, hroutines⟩ := hmakes name
  obtain ⟨s₃, hs₃, hroutines⟩ := exists_of_rel hroutines hs
  obtain ⟨s₂, hs₂, hcolumns⟩ := exists_of_rel hcolumns hs₃
  obtain ⟨s₁, hs₁, hrelations⟩ := exists_of_rel hrelations hs₂
  rw [(get?_of_schemaRows hschemata name).2 s₁ hs₁] at hrelations
  exact denotes_of_foldlM hrelations hcolumns hroutines

theorem Load.isSome_schema? {session : Session} {filter : Filter} {fetchSize : UInt32} {cache : Cache}
    (h : load session filter fetchSize = .ok cache) (name : String) : (cache.schema? name).isSome = true ↔
      filter.accepts name = true ∧ ∃ row ∈ rowsOf session fetchSize .schemata, row.isIn "SCHEMANAME" name = true := by
  obtain ⟨first, hschemata, hmakes⟩ := makes_of_load h
  obtain ⟨second, third, hrelations, hcolumns, hroutines⟩ := hmakes name
  -- the later scans neither keep nor drop a schema
  rw [isSome_of_rel hroutines, isSome_of_rel hcolumns, isSome_of_rel hrelations]
  exact (get?_of_schemaRows hschemata name).1

/-- **A loaded cache says of each accepted schema what the rows of that schema say, and nothing else.** -/
theorem load_denotes {session : Session} {filter : Filter} {fetchSize : UInt32} {cache : Cache}
    (h : load session filter fetchSize = .ok cache) : cache.Denotes filter (Load.rowsOf session fetchSize) := by
  constructor
  case isSome_schema? => exact Load.isSome_schema? h
  case schema => exact Load.schema_denotes h

/-- The rows of two schemas, of which one is padded in some rows. A relation is described twice, and one column has an
owner that is not there. -/
def interleavedRows : Request → List Row
  | .schemata => [⟨["SCHEMANAME"], [some "S   "]⟩, ⟨["SCHEMANAME"], [some "R"]⟩, ⟨["SCHEMANAME"], [some "S"]⟩]
  | .relations =>
    [⟨["TABSCHEMA", "TABNAME", "TYPE", "TEXT"], [some "S", some "A", some "T", none]⟩,
      ⟨["TABSCHEMA", "TABNAME", "TYPE", "TEXT"], [some "R", some "A", some "N", none]⟩,
      ⟨["TABSCHEMA", "TABNAME", "TYPE", "TEXT"], [some "S ", some "A", some " V ", some "select 1"]⟩,
      ⟨["TABSCHEMA", "TABNAME", "TYPE", "TEXT"], [some "S", some "A", some "?", some "select 2"]⟩]
  | .columns =>
    [⟨["TABSCHEMA", "TABNAME", "COLNO", "COLNAME", "TYPENAME"], [some "S", some "A", some "1", some "Y", some "DATE "]⟩,
      ⟨["TABSCHEMA", "TABNAME", "COLNO", "COLNAME", "TYPENAME"], [some "R", some "A", some "0", some "Z", some "DATE"]⟩,
      ⟨["TABSCHEMA", "TABNAME"], [some "S", some "B"]⟩,
      ⟨["TABSCHEMA", "TABNAME", "COLNO", "COLNAME", "TYPENAME"], [some "S", some "A", some "0", some "X", some "DATE"]⟩]
  | .routines =>
    [⟨["ROUTINESCHEMA", "ROUTINENAME", "SPECIFICNAME", "TEXT"], [some "S", some "P", some "P_1", none]⟩,
      ⟨["ROUTINESCHEMA", "ROUTINENAME", "SPECIFICNAME", "TEXT"], [some "S ", some "P", some "P_2", some "begin end"]⟩]
  | _ => []

def interleaved : Session := ⟨"interleaved", .sqlite, none, none, fun q => ⟨interleavedRows q.request, none⟩⟩

theorem load_interleaved_denotes : ∃ cache, load interleaved { excluded := ["R"] } 1000 = .ok cache ∧
    cache.Denotes { excluded := ["R"] } (Load.rowsOf interleaved 1000) :=
  ⟨_, rfl, load_denotes rfl⟩

example : ∃ cache kept, load interleaved { excluded := ["R"] } 1000 = .ok cache ∧ cache.schema? "S" = some kept ∧
    kept.relation? "A" = some ⟨"A", .view, 'V', [⟨"Y", 1, "DATE", true⟩, ⟨"X", 0, "DATE", true⟩], some "select 1"⟩ ∧
      kept.routine? "P" = some ⟨"P", ["P_1", "P_2"], some "begin end"⟩ :=
  ⟨_, _, rfl, rfl, rfl, rfl⟩

end CatalogFinder
