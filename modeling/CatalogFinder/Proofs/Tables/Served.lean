import CatalogFinder.Proofs.Tables.Filled
import CatalogFinder.Proofs.Tables.Masks
import Mathlib.Data.List.Sort

/-!
# What a filled catalog serves

The replies of a filled catalog to the requests of a load and of a search, in terms of its rows: which of them are
served, and in which order. A load is served every row. A search is served the rows that it asks for, unless its mask
is too long to be compared with.

* `Precedes` : the order by schema and name, `ColumnRow.Ordered` : that of columns;
* `Stored.outerJoin_entries`, `Stored.union_perm` : what the joins of relations and views come down to, since no two
  relations and no two views are stored under one key;
* `Stored.served_schemata`, `served_relations`, `served_columns`, `served_routines` : the scans of a load;
* `Stored.WantsRelation`, `WantsColumn`, `WantsRoutine` : what a search asks for;
* `Stored.wantedRelations`, `wantedColumns`, `wantedRoutines` : these, in the order in which they are served;
* `Stored.answer_matchingRelations`, `answer_matchingColumns`, `answer_matchingRoutines` : the requests of a search.
-/

namespace CatalogFinder

open Std (TransCmp OrientedCmp LawfulEqCmp)

/-! ## Sorting -/

section Sorting
variable {α β : Type} {cmp : α → α → Ordering}

variable (cmp) in
theorem insertBy_eq_orderedInsert (a : α) (l : List α) :
    insertBy cmp a l = l.orderedInsert (fun a b => (cmp a b).isLE) a := by
  induction l with
  | nil => rfl
  | cons b rest ih => rw [insertBy, List.orderedInsert_cons, ih]

variable (cmp) in
/-- The entries are sorted by insertion, one after the other from the last one on. -/
theorem sortedBy_eq_insertionSort (l : List α) : sortedBy cmp l = l.insertionSort fun a b => (cmp a b).isLE := by
  induction l with
  | nil => rfl
  | cons a l ih => rw [List.insertionSort_cons, ← ih, ← insertBy_eq_orderedInsert, sortedBy, List.foldr_cons, sortedBy]

theorem sortedBy_perm (l : List α) : (sortedBy cmp l).Perm l := by
  rw [sortedBy_eq_insertionSort]
  exact List.perm_insertionSort _ l

theorem mem_sortedBy {l : List α} {a : α} : a ∈ sortedBy cmp l ↔ a ∈ l := (sortedBy_perm l).mem_iff

variable (cmp) in
theorem sortedBy_map {cmp' : β → β → Ordering} (f : α → β) (h : ∀ a b, cmp' (f a) (f b) = cmp a b) (l : List α) :
    sortedBy cmp' (l.map f) = (sortedBy cmp l).map f := by
  rw [sortedBy_eq_insertionSort, sortedBy_eq_insertionSort]
  refine (List.map_insertionSort _ _ f l ?_).symm
  intro a _ b _
  rw [h]

variable [TransCmp cmp]

theorem pairwise_sortedBy (l : List α) : (sortedBy cmp l).Pairwise fun a b => (cmp a b).isLE = true := by
  have htrans : IsTrans α fun a b => (cmp a b).isLE = true := ⟨fun _ _ _ hab hbc => TransCmp.isLE_trans hab hbc⟩
  have htotal : Std.Total fun a b => (cmp a b).isLE = true := by
    refine ⟨fun a b => ?_⟩
    by_cases h : (cmp a b).isLE = true
    · exact .inl h
    · exact .inr (by rw [OrientedCmp.lt_of_not_isLE h]; rfl)
  rw [sortedBy_eq_insertionSort]
  exact List.pairwise_insertionSort _ l

/-- Where no two elements are equal in the order, each one is less than those behind it. -/
theorem pairwise_lt_sortedBy {l : List α} (h : ∀ a ∈ l, ∀ b ∈ l, cmp a b = .eq → a = b) (hl : l.Nodup) :
    (sortedBy cmp l).Pairwise fun a b => cmp a b = .lt := by
  have hnodup : (sortedBy cmp l).Nodup := (sortedBy_perm l).nodup_iff.2 hl
  refine (List.Pairwise.and (pairwise_sortedBy l) hnodup).imp_of_mem ?_
  rintro a b ha hb ⟨hle, hne⟩
  rcases Ordering.isLE_iff_eq_lt_or_eq_eq.1 hle with hlt | heq
  · exact hlt
  · exact absurd (h a (mem_sortedBy.1 ha) b (mem_sortedBy.1 hb) heq) hne

/-- Where no two elements are equal in the order, it does not matter how they stood before. -/
theorem sortedBy_congr {l l' : List α} (h : ∀ a ∈ l, ∀ b ∈ l, cmp a b = .eq → a = b) (hperm : l.Perm l') :
    sortedBy cmp l = sortedBy cmp l' := by
  refine List.Perm.eq_of_pairwise ?_ (pairwise_sortedBy l) (pairwise_sortedBy l')
    (((sortedBy_perm l).trans hperm).trans (sortedBy_perm l').symm)
  intro a b ha hb hab hba
  have hbl : b ∈ l := hperm.mem_iff.2 (mem_sortedBy.1 hb)
  exact h a (mem_sortedBy.1 ha) b hbl (OrientedCmp.isLE_antisymm hab hba)

/-- Where no two elements are equal in the order, some of them are sorted as they stand among them all. -/
theorem sortedBy_filter {l : List α} (h : ∀ a ∈ l, ∀ b ∈ l, cmp a b = .eq → a = b) (test : α → Bool) :
    sortedBy cmp (l.filter test) = (sortedBy cmp l).filter test := by
  have hperm : (sortedBy cmp (l.filter test)).Perm ((sortedBy cmp l).filter test) :=
    (sortedBy_perm _).trans ((sortedBy_perm l).filter test).symm
  refine List.Perm.eq_of_pairwise ?_ (pairwise_sortedBy _) ((pairwise_sortedBy l).sublist List.filter_sublist) hperm
  intro a b ha hb hab hba
  have hal : a ∈ l := (List.mem_filter.1 (mem_sortedBy.1 ha)).1
  have hbl : b ∈ l := mem_sortedBy.1 (List.mem_filter.1 hb).1
  exact h a hal b hbl (OrientedCmp.isLE_antisymm hab hba)

end Sorting

section EraseDups
variable {α β : Type} [BEq α] [LawfulBEq α] [BEq β] [LawfulBEq β]

omit [LawfulBEq α] in
theorem eraseDups_sublist (l : List α) : l.eraseDups.Sublist l := by
  match l with
  | [] => exact List.Sublist.slnil
  | a :: l =>
    rw [List.eraseDups_cons]
    exact ((eraseDups_sublist _).trans List.filter_sublist).cons_cons a
termination_by l.length
decreasing_by exact Nat.lt_succ_of_le (List.length_filter_le _ l)

theorem nodup_eraseDups (l : List α) : l.eraseDups.Nodup := by
  match l with
  | [] => exact List.nodup_nil
  | a :: l =>
    rw [List.eraseDups_cons, List.nodup_cons]
    refine ⟨?_, nodup_eraseDups _⟩
    rw [List.mem_eraseDups]
    simp
termination_by l.length
decreasing_by exact Nat.lt_succ_of_le (List.length_filter_le _ l)

/-- Repetitions among some elements are those that stand among them all. -/
theorem eraseDups_filter (test : α → Bool) (l : List α) : (l.filter test).eraseDups = l.eraseDups.filter test := by
  match l with
  | [] => rfl
  | a :: l =>
    rw [List.eraseDups_cons, List.filter_cons, List.filter_cons, ← eraseDups_filter test]
    cases htest : test a with
    | true => simp [List.eraseDups_cons, List.filter_filter, Bool.and_comm]
    | false =>
      have hothers : (l.filter fun b => !b == a).filter test = l.filter test := by
        rw [List.filter_filter]
        refine List.filter_congr fun b _ => ?_
        by_cases hb : b = a
        · simp [hb, htest]
        · simp [hb]
      rw [hothers]
      rfl
termination_by l.length
decreasing_by exact Nat.lt_succ_of_le (List.length_filter_le _ l)

theorem eraseDups_map (f : α → β) (hf : ∀ a b, f a = f b → a = b) (l : List α) :
    (l.map f).eraseDups = l.eraseDups.map f := by
  match l with
  | [] => rfl
  | a :: l =>
    have hfilter : (fun b => !b == f a) ∘ f = fun b => !b == a := by
      funext b
      have hiff : f b = f a ↔ b = a := ⟨hf b a, congrArg f⟩
      rw [Bool.eq_iff_iff]
      simp [hiff]
    rw [List.map_cons, List.eraseDups_cons, List.eraseDups_cons, List.filter_map, hfilter, eraseDups_map f hf,
      List.map_cons]
termination_by l.length
decreasing_by exact Nat.lt_succ_of_le (List.length_filter_le _ l)

end EraseDups

theorem exists_find? {α : Type} {l : List α} (test : α → Bool) {a : α} (ha : a ∈ l) (htest : test a = true) :
    ∃ b ∈ l, l.find? test = some b ∧ test b = true := by
  obtain ⟨b, hb⟩ := Option.isSome_iff_exists.1 (List.find?_isSome.2 ⟨a, ha, htest⟩)
  exact ⟨b, List.mem_of_find?_eq_some hb, hb, List.find?_some hb⟩

/-- Where no more than one element passes a test, a selection finds what a look-up does. -/
theorem filter_eq_find? {α : Type} (test : α → Bool) {l : List α} (hl : l.Nodup)
    (h : ∀ a ∈ l, ∀ b ∈ l, test a = true → test b = true → a = b) : l.filter test = (l.find? test).toList := by
  induction l with
  | nil => rfl
  | cons a l ih =>
    obtain ⟨ha, hl⟩ := List.nodup_cons.1 hl
    cases htest : test a with
    | false =>
      rw [List.filter_cons_of_neg (by simp [htest]), List.find?_cons_of_neg (by simp [htest])]
      exact ih hl fun b hb c hc => h b (List.mem_cons_of_mem a hb) c (List.mem_cons_of_mem a hc)
    | true =>
      have hnone : l.filter test = [] := by
        refine List.filter_eq_nil_iff.2 fun b hb hpasses => ha ?_
        rwa [h a List.mem_cons_self b (List.mem_cons_of_mem a hb) htest hpasses]
      rw [List.filter_cons_of_pos htest, List.find?_cons_of_pos htest, hnone]
      rfl

/-! ## Orders of rows -/

/-- A schema and a name come before others: the schema is less, or it is the same and the name is less. -/
def Precedes (a b : String × String) : Prop := a.1 < b.1 ∨ a.1 = b.1 ∧ a.2 < b.2

/-- A column may stand before another: its owner precedes the other's, or it is the same and its position is not
greater. -/
def ColumnRow.Ordered (a b : ColumnRow) : Prop :=
  Precedes (a.schema, a.owner) (b.schema, b.owner) ∨
    a.schema = b.schema ∧ a.owner = b.owner ∧ a.ordinal.toNat ≤ b.ordinal.toNat

theorem compare_eq_lt {a b : String} : compare a b = .lt ↔ a < b := compareOfLessAndEq_eq_lt

/-- By schema and name. -/
def RelationRow.cmp : RelationRow → RelationRow → Ordering := compareLex (compareOn (·.schema)) (compareOn (·.name))

/-- By schema, owner and position, then by name. -/
def ColumnRow.cmp : ColumnRow → ColumnRow → Ordering :=
  compareLex (compareOn (·.schema)) (compareLex (compareOn (·.owner))
    (compareLex (compareOn fun c => (c.ordinal.toNat : Int)) (compareOn (·.name))))

/-- By schema and name, then by specific name. -/
def RoutineRow.cmp : RoutineRow → RoutineRow → Ordering :=
  compareLex (compareOn (·.schema)) (compareLex (compareOn (·.name)) (compareOn (·.specificName)))

instance : TransCmp RelationRow.cmp := inferInstanceAs (TransCmp (compareLex _ _))
instance : TransCmp ColumnRow.cmp := inferInstanceAs (TransCmp (compareLex _ _))
instance : TransCmp RoutineRow.cmp := inferInstanceAs (TransCmp (compareLex _ _))

theorem RelationRow.cmp_eq_lt {a b : RelationRow} : cmp a b = .lt ↔ Precedes a.key b.key := by
  simp only [cmp, compareLex, compareOn, Ordering.then_eq_lt, Std.LawfulEqOrd.compare_eq_iff_eq, compare_eq_lt]
  rfl

theorem RelationRow.cmp_eq_eq {a b : RelationRow} : cmp a b = .eq ↔ a.key = b.key := by
  simp [cmp, compareLex, compareOn, Ordering.then_eq_eq, key]

theorem ColumnRow.ordered_of_cmp {a b : ColumnRow} (h : (cmp a b).isLE = true) : a.Ordered b := by
  simp only [cmp, compareLex, compareOn, Ordering.isLE_then_iff_or, Std.LawfulEqOrd.compare_eq_iff_eq,
    compare_eq_lt] at h
  rcases h with h | ⟨hschema, h | ⟨howner, h⟩⟩
  · exact .inl (.inl h)
  · exact .inl (.inr ⟨hschema, h⟩)
  · refine .inr ⟨hschema, howner, ?_⟩
    rcases h with h | ⟨h, -⟩
    · rw [Int.compare_eq_lt] at h
      omega
    · omega

theorem ColumnRow.key_of_cmp {a b : ColumnRow} (h : cmp a b = .eq) : a.key = b.key := by
  simp only [cmp, compareLex, compareOn, Ordering.then_eq_eq, Std.LawfulEqOrd.compare_eq_iff_eq] at h
  rw [key, key, h.1, h.2.1, h.2.2.2]

theorem RoutineRow.key_of_cmp {a b : RoutineRow} (h : cmp a b = .eq) : a.key = b.key := by
  simp only [cmp, compareLex, compareOn, Ordering.then_eq_eq, Std.LawfulEqOrd.compare_eq_iff_eq] at h
  rw [key, key, h.1, h.2.2]

theorem RoutineRow.precedes_of_cmp {a b : RoutineRow} (h : (cmp a b).isLE = true)
    (hne : (a.schema, a.name) ≠ (b.schema, b.name)) : Precedes (a.schema, a.name) (b.schema, b.name) := by
  simp only [cmp, compareLex, compareOn, Ordering.isLE_then_iff_or, Std.LawfulEqOrd.compare_eq_iff_eq,
    compare_eq_lt] at h
  rcases h with h | ⟨hschema, h | ⟨hname, -⟩⟩
  · exact .inl h
  · exact .inr ⟨hschema, h⟩
  · exact absurd (by rw [hschema, hname]) hne

/-! ## Served rows -/

/-- The row of a schema, as it is served. -/
def schemaRow (schema : String) : Row := ⟨["SCHEMANAME"], [some schema]⟩

/-- The row as a search is served it. -/
def RelationRow.hitRow (r : RelationRow) : Row :=
  ⟨["TABSCHEMA", "TABNAME", "TYPE"], [some r.schema, some r.name, some r.code.toString]⟩

/-- The row as a load is served it, with the text of a view. -/
def RelationRow.fullRow (r : RelationRow) (text : Option String) : Row :=
  ⟨["TABSCHEMA", "TABNAME", "TYPE", "TEXT"], [some r.schema, some r.name, some r.code.toString, text]⟩

/-- The row as a search is served it. -/
def ColumnRow.hitRow (c : ColumnRow) : Row :=
  ⟨["TABSCHEMA", "TABNAME", "COLNAME"], [some c.schema, some c.owner, some c.name]⟩

/-- The row as a load is served it. -/
def ColumnRow.fullRow (c : ColumnRow) : Row :=
  ⟨["TABSCHEMA", "TABNAME", "COLNAME", "COLNO", "TYPENAME", "NULLS"],
    [some c.schema, some c.owner, some c.name, some (String.ofList (Text.intDigits c.ordinal.toNat)), some c.dataType,
      some (if c.nullable then "Y" else "N")]⟩

/-- The row of a routine, as a search is served it. -/
def routineHitRow (routine : String × String) : Row :=
  ⟨["ROUTINESCHEMA", "ROUTINENAME"], [some routine.1, some routine.2]⟩

/-- The row as a load is served it. -/
def RoutineRow.fullRow (r : RoutineRow) : Row :=
  ⟨["ROUTINESCHEMA", "ROUTINENAME", "SPECIFICNAME", "TEXT"], [some r.schema, some r.name, some r.specificName, r.text]⟩

theorem text?_getD_text (text : Option String) : ((text.map Value.text).getD .null).text? = text := by
  cases text <;> rfl

namespace Stored

variable (s : Stored)

/-! ## Relations and their views -/

/-- The view of that schema and name. -/
def viewOf? (r : RelationRow) : Option ViewRow := s.views.rows.find? fun v => v.schema = r.schema && v.name = r.name

/-- The text of that view. -/
def viewText? (r : RelationRow) : Option String := (s.viewOf? r).map (·.text)

/-- Views with the relations that they belong to. -/
def joined : List (ViewRow × RelationRow) :=
  s.views.rows.flatMap fun v => (s.relations.rows.filter fun r => Tables.belongs v.entry r.entry).map fun r => (v, r)

theorem belongs_entry (v : ViewRow) (r : RelationRow) :
    Tables.belongs v.entry r.entry = (decide (v.schema = r.schema) && decide (v.name = r.name)) := by
  simp [Tables.belongs, ViewRow.entry, RelationRow.entry]

theorem mem_joined {v : ViewRow} {r : RelationRow} :
    (v, r) ∈ s.joined ↔ v ∈ s.views.rows ∧ r ∈ s.relations.rows ∧ v.schema = r.schema ∧ v.name = r.name := by
  simp [joined, belongs_entry]

/-- A view belongs to no more than one relation, so it is found whenever it is there. -/
theorem viewOf?_eq_some_iff {v : ViewRow} {r : RelationRow} :
    s.viewOf? r = some v ↔ v ∈ s.views.rows ∧ v.schema = r.schema ∧ v.name = r.name := by
  constructor
  · intro h
    exact ⟨List.mem_of_find?_eq_some h, by simpa using List.find?_some h⟩
  · rintro ⟨hv, hschema, hname⟩
    obtain ⟨w, hw, hfind, hkey⟩ := exists_find? (fun w : ViewRow => w.schema = r.schema && w.name = r.name) hv
      (by simp [hschema, hname])
    simp only [Bool.and_eq_true, decide_eq_true_eq] at hkey
    have heq : w = v := s.views.eq_of_key hw hv (by rw [ViewRow.key, ViewRow.key, hkey.1, hkey.2, hschema, hname])
    rw [viewOf?, hfind, heq]

theorem innerJoin_entries : Tables.innerJoin (s.views.rows.map ViewRow.entry) (s.relations.rows.map RelationRow.entry) =
    s.joined.map (Prod.map ViewRow.entry RelationRow.entry) := by
  unfold Tables.innerJoin joined
  rw [List.flatMap_map, List.map_flatMap]
  congr 1
  funext v
  rw [List.filter_map, List.map_map, List.map_map]
  rfl

/-- A relation is joined to its view, if it has one, and to no other. -/
theorem outerJoin_entries : Tables.outerJoin (s.relations.rows.map RelationRow.entry) (s.views.rows.map ViewRow.entry) =
    s.relations.rows.map fun r => (r.entry, (s.viewOf? r).map ViewRow.entry) := by
  have hfound : ∀ r : RelationRow, (s.views.rows.map ViewRow.entry).filter (Tables.belongs · r.entry) =
      ((s.viewOf? r).map ViewRow.entry).toList := by
    intro r
    have hviews : s.views.rows.filter (fun v => decide (v.schema = r.schema) && decide (v.name = r.name)) =
        (s.viewOf? r).toList := by
      refine filter_eq_find? _ s.views.nodup ?_
      intro v hv w hw hvr hwr
      simp only [Bool.and_eq_true, decide_eq_true_eq] at hvr hwr
      exact s.views.eq_of_key hv hw (by rw [ViewRow.key, ViewRow.key, hvr.1, hvr.2, hwr.1, hwr.2])
    rw [List.filter_map, Option.toList_map, ← hviews]
    congr 2
    funext v
    exact belongs_entry v r
  unfold Tables.outerJoin
  rw [List.flatMap_map]
  conv => rhs; rw [List.map_eq_flatMap]
  congr 1
  funext r
  rw [hfound]
  cases s.viewOf? r <;> rfl

/-! ## The scans of a load -/

theorem served_schemata :
    s.tables.answer .schemata = .ok ((sortedBy compare s.schemata.rows).map schemaRow) := by
  show Except.ok ((sortedBy _ (s.schemata.rows.map schemaEntry)).map _) = _
  rw [sortedBy_map compare schemaEntry fun _ _ => rfl, List.map_map]
  rfl

theorem served_relations :
    s.tables.answer .relations =
      .ok ((sortedBy RelationRow.cmp s.relations.rows).map fun r => r.fullRow (s.viewText? r)) := by
  show Except.ok ((sortedBy _ (Tables.outerJoin (s.relations.rows.map RelationRow.entry)
    (s.views.rows.map ViewRow.entry))).map _) = _
  rw [outerJoin_entries, sortedBy_map RelationRow.cmp (fun r => (r.entry, (s.viewOf? r).map ViewRow.entry))
    fun _ _ => rfl, List.map_map]
  congr 2
  funext r
  unfold viewText?
  rw [Function.comp_apply]
  cases s.viewOf? r <;> rfl

theorem served_columns :
    s.tables.answer .columns = .ok ((sortedBy ColumnRow.cmp s.columns.rows).map ColumnRow.fullRow) := by
  show Except.ok ((sortedBy _ (s.columns.rows.map ColumnRow.entry)).map _) = _
  rw [sortedBy_map ColumnRow.cmp ColumnRow.entry fun _ _ => rfl, List.map_map]
  rfl

theorem served_routines :
    s.tables.answer .routines = .ok ((sortedBy RoutineRow.cmp s.routines.rows).map RoutineRow.fullRow) := by
  show Except.ok ((sortedBy _ (s.routines.rows.map RoutineRow.entry)).map _) = _
  rw [sortedBy_map RoutineRow.cmp RoutineRow.entry fun _ _ => rfl, List.map_map]
  congr 2
  funext r
  rw [Function.comp_apply]
  show Row.mk _ [_, _, _, ((r.text.map Value.text).getD .null).text?] = _
  rw [text?_getD_text]
  rfl

/-! ## The requests of a search -/

/-- The schema is the one to search in, if there is one. -/
def InScope (scope : Option String) (schema : String) : Prop := ∀ wanted, scope = some wanted → schema = wanted

/-- The relation is asked for: it is in scope, of a wanted code, and the mask finds its name or, with definitions,
matches its text. -/
def WantsRelation (scope : Option String) (mask : String) (codes : List Char) (definitions : Bool)
    (r : RelationRow) : Prop :=
  InScope scope r.schema ∧ r.code ∈ codes ∧
    (Mask.Finds scope mask r.name ∨ definitions = true ∧
      ∃ v ∈ s.views.rows, v.schema = r.schema ∧ v.name = r.name ∧ Mask.Fits mask v.text)

/-- The column is asked for: it is in scope and its name matches. -/
def WantsColumn (scope : Option String) (mask : String) (c : ColumnRow) : Prop :=
  InScope scope c.schema ∧ Mask.Fits mask c.name

/-- The overload is asked for: it is in scope and its name or, with definitions, its text matches. -/
def WantsRoutine (scope : Option String) (mask : String) (definitions : Bool) (r : RoutineRow) : Prop :=
  InScope scope r.schema ∧
    (Mask.Fits mask r.name ∨ definitions = true ∧ ∃ text, r.text = some text ∧ Mask.Fits mask text)

/-- The reply has these rows, or the mask is too long for any. -/
def Answers (mask : String) (request : Request) (rows : List Row) : Prop :=
  s.tables.answer request = .ok rows ∨
    Mask.isTooLong mask = true ∧ s.tables.answer request = .error .patternTooLong

theorem inScope_text (scope : Option String) (schema : String) :
    Tables.inScope scope (.text schema) = true ↔ InScope scope schema := by
  cases scope <;> simp [Tables.inScope, InScope, eq_comm]

theorem hasCode_entry (codes : List Char) (r : RelationRow) :
    Tables.hasCode codes r.entry = true ↔ r.code ∈ codes := by
  simp [Tables.hasCode, RelationRow.entry]

theorem answers_of_guarded {mask : String} {request : Request} {rows : List Row} (compared : Bool)
    (h : s.tables.answer request = (Tables.guardMask mask compared).map fun _ => rows) :
    s.Answers mask request rows := by
  rw [Answers, h, Tables.guardMask]
  cases Mask.isTooLong mask <;> cases compared <;> simp [Except.map]

/-- The test that picks the relations to be served. -/
def picksRelation (scope : Option String) (mask : String) (codes : List Char) (definitions : Bool)
    (r : RelationRow) : Bool :=
  Tables.inScope scope r.entry.schema && Tables.hasCode codes r.entry &&
    (Tables.selectsName scope mask r.entry || definitions && (s.viewOf? r).any (·.entry.text.isLike mask))

theorem viewText_iff (mask : String) (r : RelationRow) :
    (s.viewOf? r).any (·.entry.text.isLike mask) = true ↔
      ∃ v ∈ s.views.rows, v.schema = r.schema ∧ v.name = r.name ∧ Mask.Fits mask v.text := by
  rw [Option.any_eq_true]
  constructor
  · rintro ⟨v, hv, hlike⟩
    obtain ⟨hmem, hschema, hname⟩ := s.viewOf?_eq_some_iff.1 hv
    exact ⟨v, hmem, hschema, hname, (Mask.isLike_text _ _).1 hlike⟩
  · rintro ⟨v, hmem, hschema, hname, hfits⟩
    exact ⟨v, s.viewOf?_eq_some_iff.2 ⟨hmem, hschema, hname⟩, (Mask.isLike_text _ _).2 hfits⟩

theorem picksRelation_iff (scope : Option String) (mask : String) (codes : List Char) (definitions : Bool)
    (r : RelationRow) :
    s.picksRelation scope mask codes definitions r = true ↔ s.WantsRelation scope mask codes definitions r := by
  have hscope : Tables.inScope scope r.entry.schema = true ↔ InScope scope r.schema := inScope_text _ _
  rw [picksRelation, Bool.and_eq_true, Bool.and_eq_true, Bool.or_eq_true, hscope, hasCode_entry,
    Mask.selectsName_iff scope mask r.entry r.name rfl, Bool.and_eq_true, viewText_iff, and_assoc]
  rfl

/-! ### Relations -/

section Relations
variable (scope : Option String) (mask : String) (codes : List Char) (definitions : Bool)

/-- The relations that a search asks for, by schema and name. -/
def wantedRelations : List RelationRow :=
  sortedBy RelationRow.cmp (s.relations.rows.filter (s.picksRelation scope mask codes definitions))

/-- Something has to be compared with the mask to serve relations. -/
def comparesRelations : Bool :=
  s.relations.rows.any (fun r => Tables.comparesName scope mask r.entry) ||
    definitions && s.joined.any fun e => Tables.inScope scope e.2.entry.schema && Tables.hasCode codes e.2.entry

/-- Nothing is compared where there are no relations. -/
theorem exists_of_comparesRelations (h : s.comparesRelations scope mask codes definitions = true) :
    ∃ r, r ∈ s.relations.rows := by
  rcases Bool.or_eq_true_iff.1 h with hname | htext
  · obtain ⟨r, hr, -⟩ := List.any_eq_true.1 hname
    exact ⟨r, hr⟩
  · obtain ⟨⟨v, r⟩, hjoined, -⟩ := List.any_eq_true.1 (Bool.and_eq_true_iff.1 htext).2
    exact ⟨r, (s.mem_joined.1 hjoined).2.1⟩

/-- Without a scope every name is compared. -/
theorem comparesRelations_of_mem {r : RelationRow} (hr : r ∈ s.relations.rows) :
    s.comparesRelations none mask codes definitions = true :=
  Bool.or_eq_true_iff.2 (.inl (List.any_eq_true.2 ⟨r, hr, rfl⟩))

theorem mem_wantedRelations (r : RelationRow) : r ∈ s.wantedRelations scope mask codes definitions ↔
    r ∈ s.relations.rows ∧ s.WantsRelation scope mask codes definitions r := by
  rw [wantedRelations, mem_sortedBy, List.mem_filter, picksRelation_iff]

theorem relations_eq_of_cmp : ∀ a ∈ s.relations.rows, ∀ b ∈ s.relations.rows, RelationRow.cmp a b = .eq → a = b := by
  intro a ha b hb hcmp
  exact s.relations.eq_of_key ha hb (RelationRow.cmp_eq_eq.1 hcmp)

theorem pairwise_wantedRelations :
    (s.wantedRelations scope mask codes definitions).Pairwise fun a b => Precedes a.key b.key := by
  refine (pairwise_lt_sortedBy ?_ (s.relations.nodup.filter _)).imp RelationRow.cmp_eq_lt.1
  intro a ha b hb
  exact s.relations_eq_of_cmp a (List.mem_filter.1 ha).1 b (List.mem_filter.1 hb).1

/-- The rows of the two selections. -/
def namedRows : List RelationRow :=
  s.relations.rows.filter fun r =>
    Tables.inScope scope r.entry.schema && Tables.selectsName scope mask r.entry && Tables.hasCode codes r.entry

def definedRows : List RelationRow :=
  (s.joined.filter fun e =>
    e.1.entry.text.isLike mask && Tables.hasCode codes e.2.entry && Tables.inScope scope e.2.entry.schema).map (·.2)

theorem mem_definedRows (r : RelationRow) : r ∈ s.definedRows scope mask codes ↔
    r ∈ s.relations.rows ∧ (s.viewOf? r).any (·.entry.text.isLike mask) = true ∧
      Tables.hasCode codes r.entry = true ∧ Tables.inScope scope r.entry.schema = true := by
  simp only [definedRows, List.mem_map, List.mem_filter, Prod.exists, exists_eq_right, mem_joined, Bool.and_eq_true,
    Option.any_eq_true, viewOf?_eq_some_iff]
  constructor
  · rintro ⟨v, ⟨hv, hr, hkey⟩, ⟨hlike, hcode⟩, hscope⟩
    exact ⟨hr, ⟨v, ⟨hv, hkey⟩, hlike⟩, hcode, hscope⟩
  · rintro ⟨hr, ⟨v, ⟨hv, hkey⟩, hlike⟩, hcode, hscope⟩
    exact ⟨v, ⟨hv, hr, hkey⟩, ⟨hlike, hcode⟩, hscope⟩

/-- The two selections together are the relations of either kind, and no two relations are stored under one key. -/
theorem union_perm : (Tables.union (s.namedRows scope mask codes) (s.definedRows scope mask codes)).Perm
    (s.relations.rows.filter (s.picksRelation scope mask codes true)) := by
  refine (List.perm_ext_iff_of_nodup (nodup_eraseDups _) (s.relations.nodup.filter _)).2 fun r => ?_
  rw [List.mem_eraseDups, List.mem_append, mem_definedRows, namedRows, List.mem_filter, List.mem_filter]
  simp only [picksRelation, Bool.and_eq_true, Bool.or_eq_true, true_and]
  constructor
  · rintro (⟨hr, ⟨hscope, hname⟩, hcode⟩ | ⟨hr, hlike, hcode, hscope⟩)
    · exact ⟨hr, ⟨hscope, hcode⟩, .inl hname⟩
    · exact ⟨hr, ⟨hscope, hcode⟩, .inr hlike⟩
  · rintro ⟨hr, ⟨hscope, hcode⟩, hname | hlike⟩
    · exact .inl ⟨hr, ⟨hscope, hname⟩, hcode⟩
    · exact .inr ⟨hr, hlike, hcode, hscope⟩

theorem namedRows_eq :
    s.namedRows scope mask codes = s.relations.rows.filter (s.picksRelation scope mask codes false) := by
  refine List.filter_congr fun r _ => ?_
  rw [picksRelation, Bool.false_and, Bool.or_false, Bool.and_assoc, Bool.and_assoc, Bool.and_comm (Tables.hasCode _ _)]

/-- **The entries that a search for relations selects are those of the relations that it asks for.** -/
theorem matchingRelations_entries : Tables.matchingRelations (s.relations.rows.map RelationRow.entry)
    (if definitions then some (s.joined.map (Prod.map ViewRow.entry RelationRow.entry)) else none) scope mask codes =
      (s.wantedRelations scope mask codes definitions).map RelationRow.entry := by
  have hnamed : Tables.namedRelations (s.relations.rows.map RelationRow.entry) scope mask codes =
      (s.namedRows scope mask codes).map RelationRow.entry := List.filter_map
  have hdefined : Tables.definedRelations (s.joined.map (Prod.map ViewRow.entry RelationRow.entry)) scope mask codes =
      (s.definedRows scope mask codes).map RelationRow.entry := by
    rw [Tables.definedRelations, definedRows, List.filter_map, List.map_map, List.map_map]
    rfl
  have hinjective : ∀ a b : RelationRow, a.entry = b.entry → a = b := by
    rintro ⟨schema, name, code⟩ ⟨schema', name', code'⟩ h
    simpa [RelationRow.entry] using h
  have hunique : ∀ a ∈ s.relations.rows.filter (s.picksRelation scope mask codes true),
      ∀ b ∈ s.relations.rows.filter (s.picksRelation scope mask codes true), RelationRow.cmp a b = .eq → a = b := by
    intro a ha b hb
    exact s.relations_eq_of_cmp a (List.mem_filter.1 ha).1 b (List.mem_filter.1 hb).1
  unfold Tables.matchingRelations wantedRelations
  cases definitions with
  | false =>
    show sortedBy _ (Tables.namedRelations _ scope mask codes) = _
    rw [hnamed, sortedBy_map RelationRow.cmp RelationRow.entry fun _ _ => rfl, namedRows_eq]
  | true =>
    show sortedBy _ (Tables.union (Tables.namedRelations _ scope mask codes) (Tables.definedRelations _ scope mask
      codes)) = _
    rw [hnamed, hdefined, Tables.union, ← List.map_append, eraseDups_map _ hinjective,
      sortedBy_map RelationRow.cmp RelationRow.entry fun _ _ => rfl,
      sortedBy_congr hunique (s.union_perm scope mask codes).symm]
    rfl

/-- **A search for relations is served those that it asks for**, unless something is compared with a mask that is too
long. -/
theorem answer_matchingRelations : s.tables.answer (.matchingRelations scope mask codes definitions) =
    (Tables.guardMask mask (s.comparesRelations scope mask codes definitions)).map fun _ =>
      (s.wantedRelations scope mask codes definitions).map RelationRow.hitRow := by
  have hanswer : s.tables.answer (.matchingRelations scope mask codes definitions) =
      (Tables.guardMask mask ((s.relations.rows.map RelationRow.entry).any (Tables.comparesName scope mask) ||
        ((if definitions then some (s.joined.map (Prod.map ViewRow.entry RelationRow.entry)) else none).getD []).any
          fun e => Tables.inScope scope e.2.schema && Tables.hasCode codes e.2)).map fun _ =>
        (Tables.matchingRelations (s.relations.rows.map RelationRow.entry)
          (if definitions then some (s.joined.map (Prod.map ViewRow.entry RelationRow.entry)) else none) scope mask
          codes).map fun r => Tables.rowOf ["TABSCHEMA", "TABNAME", "TYPE"] [r.schema, r.name, r.code] := by
    rw [← innerJoin_entries]
    cases definitions <;> rfl
  have hcompares : ((if definitions then some (s.joined.map (Prod.map ViewRow.entry RelationRow.entry))
      else none).getD []).any (fun e => Tables.inScope scope e.2.schema && Tables.hasCode codes e.2) =
      (definitions && s.joined.any fun e =>
        Tables.inScope scope e.2.entry.schema && Tables.hasCode codes e.2.entry) := by
    cases definitions with
    | false => rfl
    | true => exact List.any_map
  rw [hanswer, hcompares, matchingRelations_entries, List.map_map, List.any_map]
  rfl

end Relations

/-! ### Columns -/

section Columns
variable (scope : Option String) (mask : String)

/-- The columns that a search asks for, by owner and position. -/
def wantedColumns : List ColumnRow :=
  sortedBy ColumnRow.cmp
    (s.columns.rows.filter fun c => Tables.inScope scope (.text c.schema) && (Value.text c.name).isLike mask)

/-- Something has to be compared with the mask to serve columns. -/
def comparesColumns : Bool := s.columns.rows.any fun c => Tables.inScope scope (.text c.schema)

theorem mem_wantedColumns (c : ColumnRow) :
    c ∈ s.wantedColumns scope mask ↔ c ∈ s.columns.rows ∧ WantsColumn scope mask c := by
  rw [wantedColumns, mem_sortedBy, List.mem_filter, Bool.and_eq_true, inScope_text, Mask.isLike_text]
  rfl

theorem columns_eq_of_cmp : ∀ a ∈ s.columns.rows, ∀ b ∈ s.columns.rows, ColumnRow.cmp a b = .eq → a = b := by
  intro a ha b hb hcmp
  exact s.columns.eq_of_key ha hb (ColumnRow.key_of_cmp hcmp)

theorem pairwise_wantedColumns : (s.wantedColumns scope mask).Pairwise ColumnRow.Ordered :=
  (pairwise_sortedBy _).imp ColumnRow.ordered_of_cmp

theorem nodup_wantedColumns : (s.wantedColumns scope mask).Nodup :=
  (sortedBy_perm _).nodup_iff.2 (s.columns.nodup.filter _)

/-- **A search for columns is served those that it asks for**, unless something is compared with a mask that is too
long. -/
theorem answer_matchingColumns : s.tables.answer (.matchingColumns scope mask) =
    (Tables.guardMask mask (s.comparesColumns scope)).map fun _ =>
      (s.wantedColumns scope mask).map ColumnRow.hitRow := by
  have hrows : Tables.matchingColumns (s.columns.rows.map ColumnRow.entry) scope mask =
      (s.wantedColumns scope mask).map ColumnRow.entry := by
    rw [Tables.matchingColumns, List.filter_map, sortedBy_map ColumnRow.cmp ColumnRow.entry fun _ _ => rfl]
    rfl
  have hanswer : s.tables.answer (.matchingColumns scope mask) =
      (Tables.guardMask mask ((s.columns.rows.map ColumnRow.entry).any (Tables.inScope scope ·.schema))).map fun _ =>
        (Tables.matchingColumns (s.columns.rows.map ColumnRow.entry) scope mask).map fun c =>
          Tables.rowOf ["TABSCHEMA", "TABNAME", "COLNAME"] [c.schema, c.owner, c.name] := rfl
  rw [hanswer, hrows, List.map_map, List.any_map]
  rfl

end Columns

/-! ### Routines -/

theorem routineText_iff (mask : String) (definitions : Bool) (text : Option String) :
    (definitions && ((text.map Value.text).getD .null).isLike mask) = true ↔
      definitions = true ∧ ∃ t, text = some t ∧ Mask.Fits mask t := by
  cases text with
  | none => simp
  | some text => simp [Mask.isLike_text]

section Routines
variable (scope : Option String) (mask : String) (definitions : Bool)

/-- The test that picks the overloads whose routines are to be served. -/
def picksRoutine (r : RoutineRow) : Bool :=
  Tables.inScope scope (.text r.schema) &&
    ((Value.text r.name).isLike mask || (definitions && ((r.text.map Value.text).getD .null).isLike mask))

/-- The routines that a search asks for, by schema and name. -/
def wantedRoutines : List (String × String) :=
  ((sortedBy RoutineRow.cmp (s.routines.rows.filter (picksRoutine scope mask definitions))).map
    fun r => (r.schema, r.name)).eraseDups

/-- Something has to be compared with the mask to serve routines. -/
def comparesRoutines : Bool := s.routines.rows.any fun r => Tables.inScope scope (.text r.schema)

theorem picksRoutine_iff (r : RoutineRow) :
    picksRoutine scope mask definitions r = true ↔ WantsRoutine scope mask definitions r := by
  rw [picksRoutine, Bool.and_eq_true, Bool.or_eq_true, inScope_text, Mask.isLike_text, routineText_iff]
  rfl

theorem mem_wantedRoutines (schema name : String) : (schema, name) ∈ s.wantedRoutines scope mask definitions ↔
    ∃ r ∈ s.routines.rows, r.schema = schema ∧ r.name = name ∧ WantsRoutine scope mask definitions r := by
  rw [wantedRoutines, List.mem_eraseDups, List.mem_map]
  simp only [mem_sortedBy, List.mem_filter, picksRoutine_iff]
  constructor
  · rintro ⟨r, ⟨hr, hwants⟩, hkey⟩
    exact ⟨r, hr, congrArg Prod.fst hkey, congrArg Prod.snd hkey, hwants⟩
  · rintro ⟨r, hr, rfl, rfl, hwants⟩
    exact ⟨r, ⟨hr, hwants⟩, rfl⟩

theorem routines_eq_of_cmp : ∀ a ∈ s.routines.rows, ∀ b ∈ s.routines.rows, RoutineRow.cmp a b = .eq → a = b := by
  intro a ha b hb hcmp
  exact s.routines.eq_of_key ha hb (RoutineRow.key_of_cmp hcmp)

theorem pairwise_wantedRoutines : (s.wantedRoutines scope mask definitions).Pairwise Precedes := by
  -- rows of one schema and name are alike in the order, so it is strict only where these differ
  have hle : ∀ rows : List RoutineRow, ((sortedBy RoutineRow.cmp rows).map fun r => (r.schema, r.name)).Pairwise
      fun a b => a ≠ b → Precedes a b :=
    fun rows => List.pairwise_map.2 ((pairwise_sortedBy rows).imp RoutineRow.precedes_of_cmp)
  refine (List.Pairwise.and ((hle _).sublist (eraseDups_sublist _)) (nodup_eraseDups _)).imp ?_
  rintro a b ⟨hle, hne⟩
  exact hle hne

/-- **A search for routines is served those that it asks for, each once**, unless something is compared with a mask that
is too long. -/
theorem answer_matchingRoutines : s.tables.answer (.matchingRoutines scope mask definitions) =
    (Tables.guardMask mask (s.comparesRoutines scope)).map fun _ =>
      (s.wantedRoutines scope mask definitions).map routineHitRow := by
  have hrows : Tables.matchingRoutines (s.routines.rows.map RoutineRow.entry) scope mask definitions =
      (s.wantedRoutines scope mask definitions).map fun n => (Value.text n.1, Value.text n.2) := by
    rw [Tables.matchingRoutines, List.filter_map, sortedBy_map RoutineRow.cmp RoutineRow.entry fun _ _ => rfl,
      wantedRoutines, ← eraseDups_map (fun n : String × String => (Value.text n.1, Value.text n.2)) (by simp),
      List.map_map, List.map_map]
    rfl
  have hanswer : s.tables.answer (.matchingRoutines scope mask definitions) =
      (Tables.guardMask mask ((s.routines.rows.map RoutineRow.entry).any (Tables.inScope scope ·.schema))).map fun _ =>
        (Tables.matchingRoutines (s.routines.rows.map RoutineRow.entry) scope mask definitions).map
          fun n => Tables.rowOf ["ROUTINESCHEMA", "ROUTINENAME"] [n.1, n.2] := rfl
  rw [hanswer, hrows, List.map_map, List.any_map]
  rfl

end Routines

end Stored

end CatalogFinder
