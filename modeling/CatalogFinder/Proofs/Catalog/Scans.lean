import CatalogFinder.Catalog.Load
import CatalogFinder.Proofs.Catalog.Growth
import CatalogFinder.Proofs.Folds

/-!
# Scans of a load

A load is four scans, and a scan that is not broken off is one step after the other along its rows. The rows of
relations, of columns and of routines are read alike: a row names a schema, and only that schema is changed by it, if it
is kept at all. So whatever such a scan does to a kept schema is done by the rows of that schema.

* `Load.Reads`, `load_eq_ok` : the scans of a load that is not broken off;
* `Row.isIn` : a row names a schema, padded or not;
* `Load.Edit`, `Edit.step` : what the rows of a scan do to the schemas they name;
* `addRelation_eq_step`, `addColumn_eq_step`, `addRoutine_eq_step` : the later scans of a load are of this kind;
* `Edit.makes_of_foldlM`, `makes_of_load` : such a scan, and a load, changes each kept schema by its own rows.
-/

namespace CatalogFinder

section Rel
variable {α β : Type} {related : α → β → Prop} {a? : Option α} {b? : Option β}

theorem isSome_of_rel (h : Option.Rel related a? b?) : b?.isSome = a?.isSome := by
  cases h with
  | none => rfl
  | some => rfl

theorem exists_of_rel (h : Option.Rel related a? b?) {b : β} (hb : b? = some b) : ∃ a, a? = some a ∧ related a b := by
  cases h with
  | none => cases hb
  | some h =>
    cases hb
    exact ⟨_, rfl, h⟩

end Rel

namespace Load

/-! ## The scans of a load -/

theorem scan_eq_ok {step : RowStep} {failure : Option SessionError} {rows : List Row}
    {schemas schemas' : NameMap Schema} :
    (scan step failure rows schemas).1 = .ok schemas' ↔ failure = none ∧ rows.foldlM step schemas = .ok schemas' := by
  induction rows generalizing schemas with
  | nil => cases failure <;> simp [scan, pure, Except.pure]
  | cons row rows ih =>
    rw [scan, List.foldlM_cons]
    cases step schemas row with
    | error e => simp [bind, Except.bind]
    | ok later => exact ih

def rowsOf (session : Session) (fetchSize : UInt32) (request : Request) : List Row :=
  (session.reply (session.query request fetchSize)).rows

/-- The reply to a request ends without an error, and a step along its rows leads from some schemas to others. -/
def Reads (session : Session) (fetchSize : UInt32) (request : Request) (step : RowStep)
    (schemas schemas' : NameMap Schema) : Prop :=
  (session.reply (session.query request fetchSize)).failure = none ∧
    (rowsOf session fetchSize request).foldlM step schemas = .ok schemas'

theorem exists_reads {session : Session} {fetchSize : UInt32} {request : Request} {step : RowStep} {rows : List Row}
    (hreply : session.reply (session.query request fetchSize) = ⟨rows, none⟩)
    (hstep : ∀ row ∈ rows, ∀ schemas, ∃ schemas', step schemas row = .ok schemas') (schemas : NameMap Schema) :
    ∃ schemas', Reads session fetchSize request step schemas schemas' := by
  obtain ⟨schemas', hrows⟩ := foldlM_total hstep schemas
  exact ⟨schemas', by rw [hreply], by rw [rowsOf, hreply]; exact hrows⟩

theorem runScans_nil_eq_ok {session : Session} {fetchSize : UInt32} {schemas schemas' : NameMap Schema} :
    (runScans session fetchSize [] schemas).result = .ok schemas' ↔ schemas = schemas' := by
  rw [runScans, Except.ok.injEq]

theorem runScans_cons_eq_ok {session : Session} {fetchSize : UInt32} {request : Request} {step : RowStep}
    {rest : List (Request × RowStep)} {schemas schemas' : NameMap Schema} :
    (runScans session fetchSize ((request, step) :: rest) schemas).result = .ok schemas' ↔
      ∃ later, Reads session fetchSize request step schemas later ∧
        (runScans session fetchSize rest later).result = .ok schemas' := by
  unfold Reads rowsOf
  simp only [← scan_eq_ok, runScans]
  split
  next e fetched hscan => simp [hscan]
  next later fetched hscan => simp [hscan]

/-- A load that is not broken off has read the replies to its four requests to the end. -/
theorem load_eq_ok {session : Session} {filter : Filter} {fetchSize : UInt32} {cache : Cache} :
    load session filter fetchSize = .ok cache ↔
      ∃ first second third, Reads session fetchSize .schemata (addSchema filter) ∅ first ∧
        Reads session fetchSize .relations addRelation first second ∧
        Reads session fetchSize .columns addColumn second third ∧
        Reads session fetchSize .routines addRoutine third cache.schemas := by
  have hload : load session filter fetchSize = .ok cache ↔
      (run session filter fetchSize).result = .ok cache.schemas := by
    obtain ⟨kept⟩ := cache
    unfold load
    cases (run session filter fetchSize).result with
    | error e => simp
    | ok schemas => simp
  rw [hload, run, scans]
  simp only [runScans_cons_eq_ok, runScans_nil_eq_ok, exists_eq_right]
  constructor
  · rintro ⟨first, hfirst, second, hsecond, third, hthird, hlast⟩
    exact ⟨first, second, third, hfirst, hsecond, hthird, hlast⟩
  · rintro ⟨first, second, third, hfirst, hsecond, hthird, hlast⟩
    exact ⟨first, hfirst, second, hsecond, third, hthird, hlast⟩

end Load

/-! ## Schemas of rows -/

namespace Row

/-- The row names the schema, which may be padded there. -/
def isIn (column schema : String) (row : Row) : Bool := (row.get? column).map Text.trimEnd = some schema

theorem require_eq_ok {row : Row} {column text : String} :
    row.require column = .ok text ↔ row.get? column = some text := by
  unfold require get?
  rcases row.cell? column with - | - | t <;> simp

theorem requireTrimmed_eq_ok {row : Row} {column text : String} :
    row.requireTrimmed column = .ok text ↔ (row.get? column).map Text.trimEnd = some text := by
  unfold requireTrimmed require get?
  rcases row.cell? column with - | - | t <;> simp [Except.map]

theorem isIn_eq {row : Row} {column text : String} (h : row.get? column = some text) (name : String) :
    row.isIn column name = decide (Text.trimEnd text = name) := by
  simp [isIn, h]

theorem isIn_of_requireTrimmed {row : Row} {column schema : String} (h : row.requireTrimmed column = .ok schema)
    (name : String) : row.isIn column name = decide (schema = name) := by
  rw [isIn, requireTrimmed_eq_ok.1 h]
  simp

end Row

/-! ## Edits of schemas -/

namespace Load

/-- What the rows of a scan do to the schemas that they name. -/
structure Edit where
  /-- The column that names the schema. -/
  column : String
  /-- What has to be there in the rows of any schema. -/
  needed : List String := []
  /-- What a row does to its schema, if that is kept. -/
  change : Schema → Row → Except SessionError Schema

def Edit.step (e : Edit) : RowStep := fun schemas row => do
  let schema ← row.requireTrimmed e.column
  let _ ← e.needed.mapM row.require
  match schemas.get? schema with
  | none => return schemas
  | some kept => return schemas.insert schema (← e.change kept row)

def relationEdit : Edit where
  column := "TABSCHEMA"
  change kept row := do
    let name ← row.require "TABNAME"
    let code ← row.require "TYPE"
    match TypeCodes.standard.categoryFor? code, (Text.trim code).toList with
    | some category, typeCode :: _ =>
      return kept.addRelation
        { name := name, category := category, typeCode := typeCode, definition := row.get? "TEXT" }
    | _, _ => return kept

def readColumn (row : Row) : Except SessionError Column := do
  let ordinal ← ordinalOf (← row.require "COLNO")
  let name ← row.require "COLNAME"
  let dataType ← row.requireTrimmed "TYPENAME"
  let nullable := match row.get? "NULLS" with
    | some text => Text.trim text == "Y"
    | none => true
  return ⟨name, ordinal, dataType, nullable⟩

def columnEdit : Edit where
  column := "TABSCHEMA"
  needed := ["TABNAME"]
  change kept row := do
    let owner ← row.require "TABNAME"
    match kept.relation? owner with
    | none => return kept
    | some _ => return kept.addColumn owner (← readColumn row)

def routineEdit : Edit where
  column := "ROUTINESCHEMA"
  change kept row := do
    let name ← row.require "ROUTINENAME"
    let specificName ← row.require "SPECIFICNAME"
    return kept.addRoutine name specificName (row.get? "TEXT")

theorem addRelation_eq_step : addRelation = relationEdit.step := by
  funext schemas row
  unfold addRelation Edit.step relationEdit
  cases row.requireTrimmed "TABSCHEMA" with
  | error e => rfl
  | ok schema =>
    simp only [bind, Except.bind, pure, Except.pure, List.mapM_nil]
    cases hkept : schemas.get? schema with
    | none => rfl
    | some kept =>
      cases row.require "TABNAME" with
      | error e => rfl
      | ok name =>
        cases row.require "TYPE" with
        | error e => rfl
        | ok code =>
          simp only
          -- a row that describes nothing puts its schema back as it is
          have hsame : Except.ok (ε := SessionError) schemas = .ok (schemas.insert schema kept) :=
            congrArg Except.ok (NameMap.insert_of_some hkept).symm
          cases TypeCodes.standard.categoryFor? code with
          | none => exact hsame
          | some category =>
            cases (Text.trim code).toList with
            | nil => exact hsame
            | cons typeCode more => rfl

theorem addColumn_eq_step : addColumn = columnEdit.step := by
  funext schemas row
  unfold addColumn Edit.step columnEdit
  cases row.requireTrimmed "TABSCHEMA" with
  | error e => rfl
  | ok schema =>
    simp only [bind, Except.bind, pure, Except.pure, List.mapM_cons, List.mapM_nil]
    cases row.require "TABNAME" with
    | error e => rfl
    | ok owner =>
      cases hkept : schemas.get? schema with
      | none => rfl
      | some kept =>
        simp only [Option.bind_some]
        cases kept.relation? owner with
        | none => exact congrArg Except.ok (NameMap.insert_of_some hkept).symm
        | some relation =>
          simp only [readColumn, bind, Except.bind, pure, Except.pure]
          cases row.require "COLNO" with
          | error e => rfl
          | ok text =>
            simp only
            cases ordinalOf text with
            | error e => rfl
            | ok ordinal =>
              simp only
              cases row.require "COLNAME" with
              | error e => rfl
              | ok name =>
                simp only
                cases row.requireTrimmed "TYPENAME" with
                | error e => rfl
                | ok dataType => exact congrArg Except.ok (NameMap.modify_of_some hkept _)

theorem addRoutine_eq_step : addRoutine = routineEdit.step := by
  funext schemas row
  unfold addRoutine Edit.step routineEdit
  cases row.requireTrimmed "ROUTINESCHEMA" with
  | error e => rfl
  | ok schema =>
    simp only [bind, Except.bind, pure, Except.pure, List.mapM_nil]
    cases hkept : schemas.get? schema with
    | none => rfl
    | some kept =>
      cases row.require "ROUTINENAME" with
      | error e => rfl
      | ok name =>
        cases row.require "SPECIFICNAME" with
        | error e => rfl
        | ok specificName => exact congrArg Except.ok (NameMap.modify_of_some hkept _)

/-! ## What a scan makes of a schema -/

/-- The rows make one schema of another: an edit by each of them, one after the other. A schema that is not kept stays
away. -/
def Edit.Makes (e : Edit) (rows : List Row) : Option Schema → Option Schema → Prop :=
  Option.Rel fun s s' => rows.foldlM e.change s = .ok s'

theorem Edit.makes_nil (e : Edit) (s? : Option Schema) : e.Makes [] s? s? := by
  cases s? with
  | none => exact .none
  | some s => exact .some rfl

theorem Edit.Makes.append {e : Edit} {done rows : List Row} {s₁ s₂ s₃ : Option Schema} (h : e.Makes done s₁ s₂)
    (h' : e.Makes rows s₂ s₃) : e.Makes (done ++ rows) s₁ s₃ := by
  cases h with
  | none =>
    cases h'
    exact .none
  | some hdone =>
    cases h' with
    | some hrows => exact .some (by rw [List.foldlM_append, hdone]; exact hrows)

/-- A row is an edit of its own schema. -/
theorem Edit.makes_of_step {e : Edit} {schemas schemas' : NameMap Schema} {row : Row}
    (h : e.step schemas row = .ok schemas') (name : String) :
    e.Makes ([row].filter (·.isIn e.column name)) (schemas.get? name) (schemas'.get? name) := by
  obtain ⟨schema, hschema, h⟩ := bind_eq_ok h
  obtain ⟨_, _, h⟩ := bind_eq_ok h
  rw [List.filter_cons, List.filter_nil, Row.isIn_of_requireTrimmed hschema]
  by_cases hname : schema = name
  · rw [← hname, decide_eq_true rfl]
    cases hkept : schemas.get? schema with
    | none =>
      rw [hkept] at h
      cases h
      rw [hkept]
      exact .none
    | some kept =>
      rw [hkept] at h
      obtain ⟨s, hs, h⟩ := bind_eq_ok h
      cases h
      rw [NameMap.get?_insert_self]
      refine .some ?_
      show e.change kept row >>= _ = _
      rw [hs]
      rfl
  · have hsame : schemas'.get? name = schemas.get? name := by
      cases hkept : schemas.get? schema with
      | none =>
        rw [hkept] at h
        cases h
        rfl
      | some kept =>
        rw [hkept] at h
        obtain ⟨s, -, h⟩ := bind_eq_ok h
        cases h
        rw [NameMap.get?_insert, if_neg (Ne.symm hname)]
    rw [decide_eq_false hname, hsame]
    exact e.makes_nil _

/-- **A scan changes each schema by the rows of that schema.** -/
theorem Edit.makes_of_foldlM {e : Edit} {rows : List Row} {schemas schemas' : NameMap Schema}
    (h : rows.foldlM e.step schemas = .ok schemas') (name : String) :
    e.Makes (rows.filter (·.isIn e.column name)) (schemas.get? name) (schemas'.get? name) := by
  induction rows generalizing schemas with
  | nil =>
    cases h
    exact e.makes_nil _
  | cons row rows ih =>
    obtain ⟨later, hrow, h⟩ := bind_eq_ok h
    rw [← List.singleton_append, List.filter_append]
    exact (makes_of_step hrow name).append (ih h)

/-- A load keeps schemas by the first scan and changes each of them by the rows of the others. -/
theorem makes_of_load {session : Session} {filter : Filter} {fetchSize : UInt32} {cache : Cache}
    (h : load session filter fetchSize = .ok cache) :
    ∃ first, (rowsOf session fetchSize .schemata).foldlM (addSchema filter) ∅ = .ok first ∧ ∀ name, ∃ second third,
      relationEdit.Makes ((rowsOf session fetchSize .relations).filter (·.isIn "TABSCHEMA" name)) (first.get? name)
          second ∧
        columnEdit.Makes ((rowsOf session fetchSize .columns).filter (·.isIn "TABSCHEMA" name)) second third ∧
        routineEdit.Makes ((rowsOf session fetchSize .routines).filter (·.isIn "ROUTINESCHEMA" name)) third
          (cache.schema? name) := by
  obtain ⟨first, second, third, ⟨-, hschemata⟩, ⟨-, hrelations⟩, ⟨-, hcolumns⟩, ⟨-, hroutines⟩⟩ := load_eq_ok.1 h
  rw [addRelation_eq_step] at hrelations
  rw [addColumn_eq_step] at hcolumns
  rw [addRoutine_eq_step] at hroutines
  exact ⟨first, hschemata, fun name => ⟨_, _, Edit.makes_of_foldlM hrelations name, Edit.makes_of_foldlM hcolumns name,
    Edit.makes_of_foldlM hroutines name⟩⟩

end Load

end CatalogFinder
