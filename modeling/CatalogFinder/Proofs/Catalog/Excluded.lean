import CatalogFinder.Proofs.Catalog.Denoted

/-!
# Rows of schemas that are not kept

The later scans of a load come upon rows of schemas that it does not keep. Such a row changes nothing, whatever it
holds; but of a column the owner is read before the schema is looked up. So these rows can be left out of the replies,
unless there is such a column without an owner, which ends the load.

* `SameUnless` : two outcomes are the same, unless the first of them is an error of some kind;
* `Load.isKept` : the schemas that a load keeps;
* `Row.isOutside`, `Session.pruned` : the rows of other schemas, and a session without them;
* `Load.result_run` : a load ends as its scans do, one after the other;
* `Load.Edit.step_of_isOutside`, `Load.Edit.scan_filter` : what such rows do to a scan;
* `load_pruned` : what they do to a load.
-/

namespace CatalogFinder

/-! ## Outcomes -/

/-- The outcomes are the same, unless the first one is an error that is expected. -/
def SameUnless {ε α : Type} (expected : ε → Prop) (x y : Except ε α) : Prop :=
  x = y ∨ ∃ cause, expected cause ∧ x = .error cause

namespace SameUnless

variable {ε α β : Type} {expected wider : ε → Prop} {x y : Except ε α}

theorem refl (expected : ε → Prop) (x : Except ε α) : SameUnless expected x x := .inl rfl

theorem mono (h : ∀ cause, expected cause → wider cause) (hxy : SameUnless expected x y) :
    SameUnless wider x y := by
  rcases hxy with heq | ⟨cause, hcause, hx⟩
  · exact .inl heq
  · exact .inr ⟨cause, h cause hcause, hx⟩

theorem bind (h : SameUnless expected x y) {f g : α → Except ε β}
    (hfg : ∀ a, x = .ok a → SameUnless expected (f a) (g a)) : SameUnless expected (x >>= f) (y >>= g) := by
  rcases h with rfl | ⟨cause, hcause, rfl⟩
  · cases x with
    | error e => exact .inl rfl
    | ok a => exact hfg a rfl
  · exact .inr ⟨cause, hcause, rfl⟩

/-- Where no error is expected the outcomes are the same. -/
theorem eq (h : SameUnless expected x y) (hnone : ∀ cause, ¬ expected cause) : x = y := by
  rcases h with heq | ⟨cause, hcause, -⟩
  · exact heq
  · exact absurd hcause (hnone cause)

end SameUnless

/-! ## Rows of other schemas -/

namespace Load

/-- A load keeps the schema: a row of its first scan names it, and the filter accepts it. -/
def isKept (session : Session) (filter : Filter) (fetchSize : UInt32) (name : String) : Bool :=
  filter.accepts name && (rowsOf session fetchSize .schemata).any (·.isIn "SCHEMANAME" name)

end Load

/-- The row names a schema, padded or not, and this one is not kept. -/
def Row.isOutside (keeps : String → Bool) (column : String) (row : Row) : Bool :=
  (row.get? column).any fun text => !keeps (Text.trimEnd text)

/-- The column by which a row of a later scan names its schema. -/
def Request.schemaColumn? : Request → Option String
  | .relations => some "TABSCHEMA"
  | .columns => some "TABSCHEMA"
  | .routines => some "ROUTINESCHEMA"
  | _ => none

/-- The session without the rows of relations, columns and routines whose schemas are not kept. -/
def Session.pruned (session : Session) (keeps : String → Bool) : Session :=
  { session with
    reply := fun query =>
      match query.request.schemaColumn? with
      | some column =>
        { session.reply query with rows := (session.reply query).rows.filter (!·.isOutside keeps column) }
      | none => session.reply query }

namespace Load

/-! ## Scans -/

theorem scan_cons (step : RowStep) (failure : Option SessionError) (row : Row) (rows : List Row)
    (schemas : NameMap Schema) :
    (scan step failure (row :: rows) schemas).1 =
      step schemas row >>= fun later => (scan step failure rows later).1 := by
  rw [scan]
  cases step schemas row <;> rfl

/-- Only schemas that are kept have been found. -/
def KeptOnly (keeps : String → Bool) (schemas : NameMap Schema) : Prop :=
  ∀ name, (schemas.get? name).isSome = true → keeps name = true

/-- One of the rows lacks what has to be there in every row. -/
def Edit.Lacking (e : Edit) (rows : List Row) (cause : SessionError) : Prop :=
  ∃ row ∈ rows, e.needed.mapM row.require = .error cause

/-- Where nothing has to be there in every row, no row lacks it. -/
theorem Edit.not_lacking {e : Edit} (h : e.needed = []) {rows : List Row} {cause : SessionError} :
    ¬ e.Lacking rows cause := by
  rintro ⟨row, -, hlacks⟩
  rw [h] at hlacks
  cases hlacks

section Edits
variable {e : Edit} {keeps : String → Bool} {schemas schemas' : NameMap Schema} {failure : Option SessionError}
  {rows : List Row}

theorem KeptOnly.of_step (h : KeptOnly keeps schemas) {row : Row} (hstep : e.step schemas row = .ok schemas') :
    KeptOnly keeps schemas' := by
  intro name hname
  rw [isSome_of_rel (Edit.makes_of_step hstep name)] at hname
  exact h name hname

/-- A scan neither keeps nor drops a schema. -/
theorem KeptOnly.of_scan (h : KeptOnly keeps schemas) (hscan : (scan e.step failure rows schemas).1 = .ok schemas') :
    KeptOnly keeps schemas' := by
  intro name hname
  rw [isSome_of_rel (Edit.makes_of_foldlM (scan_eq_ok.1 hscan).2 name)] at hname
  exact h name hname

theorem KeptOnly.get?_eq_none (h : KeptOnly keeps schemas) {name : String} (hname : keeps name = false) :
    schemas.get? name = none := by
  rw [← Option.not_isSome_iff_eq_none]
  intro hsome
  rw [h name hsome] at hname
  cases hname

/-- A row of a schema that is not kept changes nothing. Only what has to be there in every row is read of it. -/
theorem Edit.step_of_isOutside (h : KeptOnly keeps schemas) {row : Row} (hrow : row.isOutside keeps e.column = true) :
    e.step schemas row = (e.needed.mapM row.require).map fun _ => schemas := by
  unfold Row.isOutside at hrow
  cases htext : row.get? e.column with
  | none =>
    rw [htext] at hrow
    cases hrow
  | some text =>
    rw [htext, Option.any_some, Bool.not_eq_true'] at hrow
    have hschema : row.requireTrimmed e.column = .ok (Text.trimEnd text) := by
      rw [Row.requireTrimmed_eq_ok, htext]
      rfl
    unfold step
    rw [hschema]
    cases e.needed.mapM row.require with
    | error cause => rfl
    | ok texts => simp only [bind, Except.bind, pure, Except.pure, h.get?_eq_none hrow, Except.map]

/-- A scan ends as it does without the rows of schemas that are not kept, unless one of these rows lacks what has to be
there in every row. -/
theorem Edit.scan_filter (h : KeptOnly keeps schemas) :
    SameUnless (e.Lacking (rows.filter (·.isOutside keeps e.column))) (scan e.step failure rows schemas).1
      (scan e.step failure (rows.filter (!·.isOutside keeps e.column)) schemas).1 := by
  induction rows generalizing schemas with
  | nil => exact .refl _ _
  | cons row rows ih =>
    have hrest : ∀ cause, e.Lacking (rows.filter (·.isOutside keeps e.column)) cause →
        e.Lacking ((row :: rows).filter (·.isOutside keeps e.column)) cause := by
      rintro cause ⟨other, hother, hlacks⟩
      exact ⟨other, (List.Sublist.filter _ (List.sublist_cons_self row rows)).subset hother, hlacks⟩
    rw [scan_cons]
    cases hrow : row.isOutside keeps e.column with
    | true =>
      have hleft : (row :: rows).filter (!·.isOutside keeps e.column) = rows.filter (!·.isOutside keeps e.column) :=
        List.filter_cons_of_neg (by simp [hrow])
      rw [hleft, step_of_isOutside h hrow]
      cases hneeded : e.needed.mapM row.require with
      | error cause => exact .inr ⟨cause, ⟨row, List.mem_filter.2 ⟨List.mem_cons_self, hrow⟩, hneeded⟩, rfl⟩
      | ok texts => exact (ih h).mono hrest
    | false =>
      have hkept : (row :: rows).filter (!·.isOutside keeps e.column) =
          row :: rows.filter (!·.isOutside keeps e.column) := List.filter_cons_of_pos (by simp [hrow])
      rw [hkept, scan_cons]
      exact (SameUnless.refl _ _).bind fun later hstep => (ih (h.of_step hstep)).mono hrest

end Edits

/-! ## Loads -/

/-- How the scan for a request ends. -/
def scanned (session : Session) (fetchSize : UInt32) (request : Request) (step : RowStep) (schemas : NameMap Schema) :
    Except SessionError (NameMap Schema) :=
  (scan step (session.reply (session.query request fetchSize)).failure (rowsOf session fetchSize request) schemas).1

theorem result_runScans_cons (session : Session) (fetchSize : UInt32) (request : Request) (step : RowStep)
    (rest : List (Request × RowStep)) (schemas : NameMap Schema) :
    (runScans session fetchSize ((request, step) :: rest) schemas).result =
      scanned session fetchSize request step schemas >>= fun later =>
        (runScans session fetchSize rest later).result := by
  unfold scanned rowsOf
  rw [runScans]
  split
  next e fetched hscan =>
    rw [hscan]
    rfl
  next later fetched hscan =>
    rw [hscan]
    rfl

/-- A load ends as its scans do, one after the other up to the first error. -/
theorem result_run (session : Session) (filter : Filter) (fetchSize : UInt32) :
    (run session filter fetchSize).result =
      (scanned session fetchSize .schemata (addSchema filter) ∅ >>= fun first =>
        scanned session fetchSize .relations relationEdit.step first >>= fun second =>
        scanned session fetchSize .columns columnEdit.step second >>= fun third =>
        scanned session fetchSize .routines routineEdit.step third) := by
  have hlast : ∀ third, (scanned session fetchSize .routines routineEdit.step third >>= fun last =>
      (runScans session fetchSize [] last).result) = scanned session fetchSize .routines routineEdit.step third := by
    intro third
    cases scanned session fetchSize .routines routineEdit.step third <;> rfl
  rw [run, scans, addRelation_eq_step, addColumn_eq_step, addRoutine_eq_step]
  simp only [result_runScans_cons, hlast]

theorem keptOnly_of_scanned {session : Session} {filter : Filter} {fetchSize : UInt32} {first : NameMap Schema}
    (h : scanned session fetchSize .schemata (addSchema filter) ∅ = .ok first) :
    KeptOnly (isKept session filter fetchSize) first := by
  intro name hname
  obtain ⟨haccepts, row, hrow, hisIn⟩ := (get?_of_schemaRows (scan_eq_ok.1 h).2 name).1.1 hname
  rw [isKept, haccepts, Bool.true_and]
  exact List.any_eq_true.2 ⟨row, hrow, hisIn⟩

section Pruned
variable (session : Session) (fetchSize : UInt32) {keeps : String → Bool} {schemas : NameMap Schema}

theorem relations_scanned (h : KeptOnly keeps schemas) :
    scanned session fetchSize .relations relationEdit.step schemas =
      scanned (session.pruned keeps) fetchSize .relations relationEdit.step schemas :=
  (Edit.scan_filter h).eq fun _ => Edit.not_lacking rfl

theorem columns_scanned (h : KeptOnly keeps schemas) :
    SameUnless (columnEdit.Lacking ((rowsOf session fetchSize .columns).filter (·.isOutside keeps "TABSCHEMA")))
      (scanned session fetchSize .columns columnEdit.step schemas)
      (scanned (session.pruned keeps) fetchSize .columns columnEdit.step schemas) := Edit.scan_filter h

theorem routines_scanned (h : KeptOnly keeps schemas) :
    scanned session fetchSize .routines routineEdit.step schemas =
      scanned (session.pruned keeps) fetchSize .routines routineEdit.step schemas :=
  (Edit.scan_filter h).eq fun _ => Edit.not_lacking rfl

end Pruned

/-- What has to be there in every row of a column is its owner. -/
theorem require_of_lacking {rows : List Row} {cause : SessionError} (h : columnEdit.Lacking rows cause) :
    ∃ row ∈ rows, row.require "TABNAME" = .error cause := by
  obtain ⟨row, hrow, hlacks⟩ := h
  refine ⟨row, hrow, ?_⟩
  cases howner : row.require "TABNAME" with
  | error e => simpa [columnEdit, howner, bind, Except.bind] using hlacks
  | ok owner => simp [columnEdit, howner, bind, Except.bind, pure, Except.pure] at hlacks

/-- A load ends as it does without the rows of schemas that it does not keep, unless one of these rows is a column that
lacks its owner. -/
theorem result_pruned (session : Session) (filter : Filter) (fetchSize : UInt32) :
    SameUnless (columnEdit.Lacking
        ((rowsOf session fetchSize .columns).filter (·.isOutside (isKept session filter fetchSize) "TABSCHEMA")))
      (run session filter fetchSize).result
      (run (session.pruned (isKept session filter fetchSize)) filter fetchSize).result := by
  rw [result_run, result_run]
  -- the first scan is about schemas only, and its rows are all there
  refine (SameUnless.refl _ _).bind fun first hfirst => ?_
  have hkept := keptOnly_of_scanned hfirst
  rw [← relations_scanned session fetchSize hkept]
  refine (SameUnless.refl _ _).bind fun second hsecond => ?_
  have hkept := hkept.of_scan hsecond
  refine (columns_scanned session fetchSize hkept).bind fun third hthird => ?_
  rw [← routines_scanned session fetchSize (hkept.of_scan hthird)]
  exact .refl _ _

end Load

/-- **Rows of schemas that are not kept do nothing to a load**, unless one of them is a column without an owner, which
ends it. -/
theorem load_pruned (session : Session) (filter : Filter) (fetchSize : UInt32) :
    load session filter fetchSize = load (session.pruned (Load.isKept session filter fetchSize)) filter fetchSize ∨
      ∃ row ∈ Load.rowsOf session fetchSize .columns,
        row.isOutside (Load.isKept session filter fetchSize) "TABSCHEMA" = true ∧
          ∃ cause, row.require "TABNAME" = .error cause ∧ load session filter fetchSize = .error ⟨cause⟩ := by
  unfold load
  rcases Load.result_pruned session filter fetchSize with heq | ⟨cause, hlacking, hresult⟩
  · left
    rw [heq]
  · right
    obtain ⟨row, hrow, howner⟩ := Load.require_of_lacking hlacking
    obtain ⟨hmem, houtside⟩ := List.mem_filter.1 hrow
    exact ⟨row, hmem, houtside, cause, howner, by rw [hresult]⟩

/-- A schema that is listed, and a column of it without an owner. -/
def ownerlessRows : Request → List Row
  | .schemata => [⟨["SCHEMANAME"], [some "R"]⟩]
  | .columns => [⟨["TABSCHEMA", "TABNAME", "COLNAME", "COLNO", "TYPENAME"],
      [some "R", none, some "C", some "0", some "DATE"]⟩]
  | _ => []

def ownerless : Session := ⟨"ownerless", .sqlite, none, none, fun q => ⟨ownerlessRows q.request, none⟩⟩

/-- A column without an owner ends a load that does not keep its schema. -/
theorem load_ownerless :
    load ownerless { excluded := ["R"] } 1000 = .error ⟨.nullValue "TABNAME"⟩ ∧
      load (ownerless.pruned (Load.isKept ownerless { excluded := ["R"] } 1000)) { excluded := ["R"] } 1000 =
        .ok .empty := ⟨rfl, rfl⟩

end CatalogFinder
