import CatalogFinder.Catalog.Schema

/-!
# How a schema grows

What is found in a schema after a relation, a column or an overload has been added to it.

* `NameMap.modify_of_some`, `insert_of_some` : changes that are insertions, and insertions that change nothing;
* `Schema.relation?_addRelation`, `relation?_addColumn`, `routine?_addRoutine` : what is found after an addition.
-/

namespace CatalogFinder

namespace NameMap

variable {α : Type} {m : NameMap α} {name : String}

theorem modify_of_some {value : α} (h : m.get? name = some value) (change : α → α) :
    m.modify name change = m.insert name (change value) := by
  refine ext_get? fun n => ?_
  rw [get?_modify, get?_insert]
  split
  next hn => rw [hn, h, Option.map_some]
  next => rfl

theorem insert_of_some {value : α} (h : m.get? name = some value) : m.insert name value = m := by
  refine ext_get? fun n => ?_
  rw [get?_insert]
  split
  next hn => rw [hn, h]
  next => rfl

end NameMap

namespace Schema

variable (s : Schema)

@[simp] theorem relation?_addRelation (r : Relation) (name : String) :
    (s.addRelation r).relation? name = if name = r.name then some r else s.relation? name :=
  NameMap.get?_insert ..

theorem relation?_addColumn (relation : String) (column : Column) (name : String) :
    (s.addColumn relation column).relation? name =
      if name = relation then (s.relation? name).map fun r => { r with columns := r.columns ++ [column] }
      else s.relation? name := by
  rw [relation?, addColumn, NameMap.get?_modify]
  split
  next h => rw [h, relation?]
  next => rfl

theorem routine?_addRoutine (routine specificName : String) (text : Option String) (name : String) :
    (s.addRoutine routine specificName text).routine? name =
      if name = routine then some (((s.routine? routine).getD { name := routine }).addOverload specificName text)
      else s.routine? name :=
  NameMap.get?_insert ..

end Schema

end CatalogFinder
