import CatalogFinder.Proofs.Catalog.Growth
import CatalogFinder.Proofs.Search.Named

/-!
# What has been added to a schema

A schema grows by relations, by columns of relations and by overloads of routines, in any order and under any names.
What it holds in the end is told from the additions alone: a relation takes the place of an earlier one of its name,
together with the columns of that one, while the overloads of a name all stay.

* `SchemaAddition`, `Schema.after` : a schema to which any number of additions have been made;
* `columnsFor`, `overloadsFor` : what the additions bring for one name;
* `Schema.GrownBy` : what the schema holds under each name, and what is found in it;
* `relation?_add`, `routine?_add` : what one addition does to the entry of a name, and `relation?_add_of_apart`,
  `routine?_add_of_apart` : that it does nothing to the others;
* `relation?_after`, `routine?_after` : what all of them do to it;
* `GrownBy.unique`, `Schema.grownBy_after` : one schema at most holds exactly what has been added, and it is the one that
  has grown.
-/

namespace CatalogFinder

/-- What is added to a schema. A column goes to the relation of a name, an overload to the routine of a name. -/
inductive SchemaAddition where
  | relation (r : Relation)
  | column (owner : String) (c : Column)
  | routine (name specificName : String) (text : Option String)

namespace SchemaAddition

/-- The name of the relation that is added or gets a column. -/
def relationName? : SchemaAddition → Option String
  | relation r => some r.name
  | column owner _ => some owner
  | routine .. => none

/-- The name of the routine that gets an overload. -/
def routineName? : SchemaAddition → Option String
  | routine name _ _ => some name
  | _ => none

/-- The column that is added to the relation of the name. -/
def columnFor? (name : String) : SchemaAddition → Option Column
  | column owner c => if owner = name then some c else none
  | _ => none

/-- The overload that is added to the routine of the name, and the text that is given with it. -/
def overloadFor? (name : String) : SchemaAddition → Option (String × Option String)
  | routine overloaded specificName text => if overloaded = name then some (specificName, text) else none
  | _ => none

end SchemaAddition

/-- The columns that are added to the relation of the name, one after the other. -/
def columnsFor (name : String) (additions : List SchemaAddition) : List Column :=
  additions.filterMap (·.columnFor? name)

/-- The overloads that are added to the routine of the name, one after the other, each with the text given with it. -/
def overloadsFor (name : String) (additions : List SchemaAddition) : List (String × Option String) :=
  additions.filterMap (·.overloadFor? name)

/-- The relation with some more columns behind its own. -/
def Relation.withColumns (r : Relation) (columns : List Column) : Relation := { r with columns := r.columns ++ columns }

/-- The routine with some more overloads. Its text is its own, or else the first one that is given with them. -/
def Routine.withOverloads (r : Routine) (overloads : List (String × Option String)) : Routine :=
  { r with specificNames := r.specificNames ++ overloads.map (·.1), text := r.text <|> overloads.findSome? (·.2) }

namespace Schema

/-- The schema after an addition. A column for a relation that is not there is left out. -/
def add (s : Schema) : SchemaAddition → Schema
  | .relation r => s.addRelation r
  | .column owner c => s.addColumn owner c
  | .routine name specificName text => s.addRoutine name specificName text

/-- The schema after some additions. -/
def after (s : Schema) (additions : List SchemaAddition) : Schema := additions.foldl add s

/-- The schema holds what another one held at the start and what has been added since, and nothing else. -/
structure GrownBy (start : Schema) (additions : List SchemaAddition) (s : Schema) : Prop where
  name : s.name = start.name
  /-- The last relation added under a name is there, with its own columns and then those added to it since. -/
  relation_added {before after : List SchemaAddition} {r : Relation} : additions = before ++ .relation r :: after →
    (∀ r', .relation r' ∈ after → r'.name ≠ r.name) → s.relation? r.name = some (r.withColumns (columnsFor r.name after))
  /-- Where none has been added there is the one of the start, if there was one, with the columns added to it. -/
  relation_kept {name : String} : (∀ r, .relation r ∈ additions → r.name ≠ name) →
    s.relation? name = (start.relation? name).map (·.withColumns (columnsFor name additions))
  /-- All overloads added under a name are there in order, behind those of the start, and the first text there was. -/
  routine_added {name : String} : (∃ a ∈ additions, a.routineName? = some name) →
    s.routine? name =
      some (((start.routine? name).getD { name := name }).withOverloads (overloadsFor name additions))
  /-- What is added under other names, or to routines, leaves a relation as it was. -/
  relation_apart {name : String} : (∀ a ∈ additions, a.relationName? ≠ some name) →
    s.relation? name = start.relation? name
  /-- What is added under other names, or to relations, leaves a routine as it was. -/
  routine_apart {name : String} : (∀ a ∈ additions, a.routineName? ≠ some name) →
    s.routine? name = start.routine? name
  /-- What is stored under a name carries it, if it did at the start. In a schema that starts empty it always does. -/
  relations_namedBy : start.relations.NamedBy Relation.name → s.relations.NamedBy Relation.name
  routines_namedBy : start.routines.NamedBy Routine.name → s.routines.NamedBy Routine.name
  table {name : String} {r : Relation} : s.table? name = some r ↔
    s.relation? name = some r ∧ (r.category = .table ∨ r.category = .materializedView)
  view {name : String} {r : Relation} : s.view? name = some r ↔ s.relation? name = some r ∧ r.category = .view
  object {c : Category} {name : String} {object : CatalogObject} : c.isTableLike = true →
    (s.object? c name = some object ↔
      ∃ r, s.relation? name = some r ∧ r.category = c ∧ object = .relation start.name r)

end Schema

/-! ## Columns and overloads -/

@[simp] theorem Relation.withColumns_nil (r : Relation) : r.withColumns [] = r := by
  rw [withColumns, List.append_nil]

theorem Relation.withColumns_append (r : Relation) (columns more : List Column) :
    r.withColumns (columns ++ more) = (r.withColumns columns).withColumns more := by
  simp only [withColumns, List.append_assoc]

@[simp] theorem Routine.withOverloads_nil (r : Routine) : r.withOverloads [] = r := by
  obtain ⟨name, specificNames, text⟩ := r
  simp [withOverloads]

theorem Routine.withOverloads_append (r : Routine) (overloads more : List (String × Option String)) :
    r.withOverloads (overloads ++ more) = (r.withOverloads overloads).withOverloads more := by
  simp [withOverloads, List.findSome?_append, Option.or_assoc]

theorem Routine.addOverload_eq (r : Routine) (specificName : String) (text : Option String) :
    r.addOverload specificName text = r.withOverloads [(specificName, text)] := by
  simp [withOverloads, addOverload, List.findSome?_singleton]

theorem columnsFor_cons (name : String) (a : SchemaAddition) (additions : List SchemaAddition) :
    columnsFor name (a :: additions) = (a.columnFor? name).toList ++ columnsFor name additions := by
  simp only [columnsFor, List.filterMap_eq_flatMap_toList, List.flatMap_cons]

theorem overloadsFor_cons (name : String) (a : SchemaAddition) (additions : List SchemaAddition) :
    overloadsFor name (a :: additions) = (a.overloadFor? name).toList ++ overloadsFor name additions := by
  simp only [overloadsFor, List.filterMap_eq_flatMap_toList, List.flatMap_cons]

/-! ## Names -/

namespace NameMap.NamedBy

variable {α : Type} {m : NameMap α} {nameOf : α → String}

theorem insert (h : m.NamedBy nameOf) {name : String} {value : α} (hvalue : nameOf value = name) :
    (m.insert name value).NamedBy nameOf := by
  intro n a ha
  rw [get?_insert] at ha
  split at ha
  next hn =>
    cases ha
    rw [hn, hvalue]
  next => exact h n a ha

theorem modify (h : m.NamedBy nameOf) (name : String) {change : α → α} (hchange : ∀ a, nameOf (change a) = nameOf a) :
    (m.modify name change).NamedBy nameOf := by
  intro n a ha
  rw [get?_modify] at ha
  split at ha
  next =>
    obtain ⟨b, hb, rfl⟩ := Option.map_eq_some_iff.1 ha
    rw [hchange, h n b hb]
  next => exact h n a ha

end NameMap.NamedBy

namespace Schema

variable {s : Schema} {a : SchemaAddition} {additions : List SchemaAddition} {name : String}

/-! ## One addition -/

theorem name_add (s : Schema) (a : SchemaAddition) : (s.add a).name = s.name := by
  cases a <;> rfl

theorem relation?_add_of_apart (h : a.relationName? ≠ some name) : (s.add a).relation? name = s.relation? name := by
  cases a with
  | relation r =>
    have hne : name ≠ r.name := fun heq => h (by rw [heq, SchemaAddition.relationName?])
    rw [add, relation?_addRelation, if_neg hne]
  | column owner c =>
    have hne : name ≠ owner := fun heq => h (by rw [heq, SchemaAddition.relationName?])
    rw [add, relation?_addColumn, if_neg hne]
  | routine => rfl

/-- A relation that is not added anew gets the column that is meant for it. -/
theorem relation?_add (h : ∀ r, a = .relation r → r.name ≠ name) :
    (s.add a).relation? name = (s.relation? name).map (·.withColumns (a.columnFor? name).toList) := by
  cases a with
  | relation r =>
    rw [add, relation?_addRelation, if_neg (h r rfl).symm]
    simp [SchemaAddition.columnFor?]
  | column owner c =>
    rw [add, relation?_addColumn, SchemaAddition.columnFor?]
    by_cases heq : name = owner
    · rw [if_pos heq, if_pos heq.symm]
      rfl
    · rw [if_neg heq, if_neg (Ne.symm heq)]
      simp
  | routine => simp [add, SchemaAddition.columnFor?, addRoutine, relation?]

theorem routine?_add_of_apart (h : a.routineName? ≠ some name) : (s.add a).routine? name = s.routine? name := by
  cases a with
  | relation r => rfl
  | column owner c => rfl
  | routine overloaded specificName text =>
    have hne : name ≠ overloaded := fun heq => h (by rw [heq, SchemaAddition.routineName?])
    rw [add, routine?_addRoutine, if_neg hne]

/-- A routine gets the overload that is meant for it. If it is not there yet, it counts as one without overloads. -/
theorem routine?_add (h : a.routineName? = some name) :
    (s.add a).routine? name =
      some (((s.routine? name).getD { name := name }).withOverloads (a.overloadFor? name).toList) := by
  cases a with
  | relation r => cases h
  | column owner c => cases h
  | routine overloaded specificName text =>
    cases h
    rw [add, routine?_addRoutine, if_pos rfl, SchemaAddition.overloadFor?, if_pos rfl, Routine.addOverload_eq]
    rfl

theorem overloadFor?_of_apart (h : a.routineName? ≠ some name) : a.overloadFor? name = none := by
  cases a with
  | relation r => rfl
  | column owner c => rfl
  | routine overloaded specificName text => exact if_neg fun heq => h (congrArg some heq)

theorem relations_namedBy_add (h : s.relations.NamedBy Relation.name) (a : SchemaAddition) :
    (s.add a).relations.NamedBy Relation.name := by
  cases a with
  | relation r => exact h.insert rfl
  | column owner c => exact h.modify owner fun _ => rfl
  | routine => exact h

theorem routines_namedBy_add (h : s.routines.NamedBy Routine.name) (a : SchemaAddition) :
    (s.add a).routines.NamedBy Routine.name := by
  cases a with
  | relation r => exact h
  | column owner c => exact h
  | routine overloaded specificName text =>
    refine h.insert ?_
    -- the routine that gets the overload is the one of the name, or a new one
    cases hroutine : s.routines.get? overloaded with
    | none => rfl
    | some r => exact h overloaded r hroutine

/-! ## All additions -/

theorem after_cons (s : Schema) (a : SchemaAddition) (additions : List SchemaAddition) :
    s.after (a :: additions) = (s.add a).after additions := rfl

theorem after_append (s : Schema) (before after : List SchemaAddition) :
    s.after (before ++ after) = (s.after before).after after := List.foldl_append

/-- What each addition keeps, all of them keep. -/
theorem after_induct {motive : Schema → Prop} (hs : motive s)
    (hadd : ∀ now, motive now → ∀ a ∈ additions, motive (now.add a)) : motive (s.after additions) :=
  List.foldlRecOn additions add hs hadd

theorem name_after (s : Schema) (additions : List SchemaAddition) : (s.after additions).name = s.name :=
  after_induct (motive := (·.name = s.name)) rfl fun now hnow a _ => (now.name_add a).trans hnow

theorem relation?_after_of_apart (h : ∀ a ∈ additions, a.relationName? ≠ some name) :
    (s.after additions).relation? name = s.relation? name :=
  after_induct (motive := (·.relation? name = s.relation? name)) rfl fun _ hnow a ha =>
    (relation?_add_of_apart (h a ha)).trans hnow

theorem routine?_after_of_apart (h : ∀ a ∈ additions, a.routineName? ≠ some name) :
    (s.after additions).routine? name = s.routine? name :=
  after_induct (motive := (·.routine? name = s.routine? name)) rfl fun _ hnow a ha =>
    (routine?_add_of_apart (h a ha)).trans hnow

/-- A relation that is not added anew gets all the columns that are meant for it. -/
theorem relation?_after (h : ∀ r, .relation r ∈ additions → r.name ≠ name) :
    (s.after additions).relation? name = (s.relation? name).map (·.withColumns (columnsFor name additions)) := by
  induction additions generalizing s with
  | nil => simp [after, columnsFor]
  | cons a additions ih =>
    have hhead : ∀ r, a = .relation r → r.name ≠ name := fun r hr => h r (hr ▸ List.mem_cons_self)
    rw [after_cons, ih fun r hr => h r (List.mem_cons_of_mem a hr), relation?_add hhead, columnsFor_cons,
      Option.map_map]
    simp only [Function.comp_def, Relation.withColumns_append]

/-- A routine that is there gets all the overloads that are meant for it. -/
theorem routine?_after_of_some {r : Routine} (h : s.routine? name = some r) :
    (s.after additions).routine? name = some (r.withOverloads (overloadsFor name additions)) := by
  induction additions generalizing s r with
  | nil => simpa [after, overloadsFor] using h
  | cons a additions ih =>
    have hadd : (s.add a).routine? name = some (r.withOverloads (a.overloadFor? name).toList) := by
      by_cases ha : a.routineName? = some name
      · rw [routine?_add ha, h, Option.getD_some]
      · rw [routine?_add_of_apart ha, h, overloadFor?_of_apart ha, Option.toList_none, Routine.withOverloads_nil]
    rw [after_cons, ih hadd, overloadsFor_cons, Routine.withOverloads_append]

/-- A routine that is overloaded has all the overloads that are meant for it. -/
theorem routine?_after (h : ∃ a ∈ additions, a.routineName? = some name) :
    (s.after additions).routine? name =
      some (((s.routine? name).getD { name := name }).withOverloads (overloadsFor name additions)) := by
  induction additions generalizing s with
  | nil => simp at h
  | cons a additions ih =>
    rw [after_cons, overloadsFor_cons]
    by_cases ha : a.routineName? = some name
    · -- from its first overload on the routine is there
      rw [routine?_after_of_some (routine?_add ha), Routine.withOverloads_append]
    · have hlater : ∃ b ∈ additions, b.routineName? = some name := by
        simpa [ha] using h
      rw [ih hlater, routine?_add_of_apart ha, overloadFor?_of_apart ha, Option.toList_none, List.nil_append]

/-- The last relation that is added under a name is found, with the columns that are added to it from then on. -/
theorem relation?_after_of_last (s : Schema) {before after : List SchemaAddition} {r : Relation}
    (h : ∀ r', .relation r' ∈ after → r'.name ≠ r.name) :
    (s.after (before ++ .relation r :: after)).relation? r.name = some (r.withColumns (columnsFor r.name after)) := by
  rw [after_append, after_cons, relation?_after h, add, relation?_addRelation, if_pos rfl, Option.map_some]

/-! ## Look-ups -/

theorem table?_iff {r : Relation} : s.table? name = some r ↔
    s.relation? name = some r ∧ (r.category = .table ∨ r.category = .materializedView) := by
  simp [table?_eq_some_iff]

theorem view?_iff {r : Relation} : s.view? name = some r ↔ s.relation? name = some r ∧ r.category = .view := by
  simp [view?_eq_some_iff]

theorem object?_iff {c : Category} (hc : c.isTableLike = true) {object : CatalogObject} :
    s.object? c name = some object ↔
      ∃ r, s.relation? name = some r ∧ r.category = c ∧ object = .relation s.name r := by
  simp [object?_of_isTableLike hc, Option.filter_eq_some_iff, and_assoc, eq_comm (a := object)]

/-! ## What a schema holds -/

/-- Some relation is the last one that is added under a name, or there is none. -/
theorem exists_last_relation (additions : List SchemaAddition) (name : String) :
    (∃ before r after, additions = before ++ .relation r :: after ∧ r.name = name ∧
        ∀ r', .relation r' ∈ after → r'.name ≠ r.name) ∨
      ∀ r, .relation r ∈ additions → r.name ≠ name := by
  induction additions with
  | nil => exact .inr fun r hr => by cases hr
  | cons a additions ih =>
    rcases ih with ⟨before, r, after, rfl, hname, hlast⟩ | hnone
    · exact .inl ⟨a :: before, r, after, rfl, hname, hlast⟩
    · by_cases ha : ∃ r, a = .relation r ∧ r.name = name
      · obtain ⟨r, rfl, rfl⟩ := ha
        exact .inl ⟨[], r, additions, rfl, rfl, hnone⟩
      · refine .inr fun r hr hname => ?_
        rcases List.mem_cons.1 hr with rfl | hr
        · exact ha ⟨r, rfl, hname⟩
        · exact hnone r hr hname

/-- What is said of a schema that has grown says all of it. -/
theorem GrownBy.unique {start s s' : Schema} {additions : List SchemaAddition} (h : start.GrownBy additions s)
    (h' : start.GrownBy additions s') : s = s' := by
  have hrelations : s.relations = s'.relations := by
    refine NameMap.ext_get? fun name => ?_
    change s.relation? name = s'.relation? name
    rcases exists_last_relation additions name with ⟨before, r, after, hsplit, rfl, hlast⟩ | hnone
    · rw [h.relation_added hsplit hlast, h'.relation_added hsplit hlast]
    · rw [h.relation_kept hnone, h'.relation_kept hnone]
  have hroutines : s.routines = s'.routines := by
    refine NameMap.ext_get? fun name => ?_
    change s.routine? name = s'.routine? name
    by_cases hsome : ∃ a ∈ additions, a.routineName? = some name
    · rw [h.routine_added hsome, h'.routine_added hsome]
    · have hapart : ∀ a ∈ additions, a.routineName? ≠ some name := fun a ha hname => hsome ⟨a, ha, hname⟩
      rw [h.routine_apart hapart, h'.routine_apart hapart]
  have hname : s.name = s'.name := h.name.trans h'.name.symm
  cases s
  cases s'
  cases hname
  cases hrelations
  cases hroutines
  rfl

/-- **A schema holds what has been added to it**: under each name the last relation with its own columns and those
added since, or all overloads with the first text there was; and what is added under one name changes no other. -/
theorem grownBy_after (start : Schema) (additions : List SchemaAddition) :
    start.GrownBy additions (start.after additions) where
  name := start.name_after additions
  relation_added hsplit hlast := hsplit ▸ start.relation?_after_of_last hlast
  relation_kept hnone := relation?_after hnone
  routine_added hsome := routine?_after hsome
  relation_apart hapart := relation?_after_of_apart hapart
  routine_apart hapart := routine?_after_of_apart hapart
  relations_namedBy hstart :=
    after_induct (motive := (·.relations.NamedBy Relation.name)) hstart fun _ hnow a _ => relations_namedBy_add hnow a
  routines_namedBy hstart :=
    after_induct (motive := (·.routines.NamedBy Routine.name)) hstart fun _ hnow a _ => routines_namedBy_add hnow a
  table := table?_iff
  view := view?_iff
  object hc := by rw [object?_iff hc, name_after]

example : ({ name := "S" } : Schema).after
      [.relation ⟨"A", .table, 'T', [], none⟩, .routine "P" "P_1" none, .column "A" ⟨"X", 0, "DATE", true⟩,
        .relation ⟨"A", .view, 'V', [], some "select 1"⟩, .routine "P" "P_2" (some "begin end"),
        .column "B" ⟨"Y", 0, "DATE", true⟩, .column "A" ⟨"Z", 1, "DATE", true⟩, .routine "P" "P_1" (some "return")] =
    { name := "S",
      relations := .ofList [("A", ⟨"A", .view, 'V', [⟨"Z", 1, "DATE", true⟩], some "select 1"⟩)],
      routines := .ofList [("P", ⟨"P", ["P_1", "P_2", "P_1"], some "begin end"⟩)] } := by
  decide

end Schema

end CatalogFinder
