/-!
# Maps from names

A `NameMap` holds one value per name, as entries in the order of their names: code point by code point, which is
also the order of the UTF-8 bytes. Two maps with the same look-ups are the same map (`NameMap.ext_get?`).

* `get?`, `insert`, `modify`, `filter` : the operations, each with its effect on `get?`;
* `ofList` : the map of a list of pairs, where the last value of a name counts.
-/

namespace CatalogFinder

/-- Values by name, in the order of the names. -/
structure NameMap (α : Type) where
  entries : List (String × α)
  sorted : entries.Pairwise (fun a b => a.1 < b.1)

namespace NameMap

variable {α : Type}

def empty : NameMap α := ⟨[], .nil⟩

instance : EmptyCollection (NameMap α) := ⟨empty⟩
instance : Inhabited (NameMap α) := ⟨empty⟩

instance [DecidableEq α] : DecidableEq (NameMap α) := fun m n =>
  if h : m.entries = n.entries then .isTrue (by cases m; cases n; cases h; rfl)
  else .isFalse (by intro e; exact h (congrArg _ e))

def names (m : NameMap α) : List String := m.entries.map (·.1)

def values (m : NameMap α) : List α := m.entries.map (·.2)

def size (m : NameMap α) : Nat := m.entries.length

def get? (m : NameMap α) (name : String) : Option α := m.entries.lookup name

def contains (m : NameMap α) (name : String) : Bool := (m.get? name).isSome

/-- Puts an entry at its place, instead of one of the same name. -/
def insertEntry (name : String) (value : α) : List (String × α) → List (String × α)
  | [] => [(name, value)]
  | entry :: rest =>
    if name < entry.1 then (name, value) :: entry :: rest
    else if name = entry.1 then (name, value) :: rest
    else entry :: insertEntry name value rest

theorem mem_insertEntry {name : String} {value : α} {entries : List (String × α)} {e : String × α}
    (h : e ∈ insertEntry name value entries) : e = (name, value) ∨ e ∈ entries := by
  induction entries with
  | nil => simpa [insertEntry] using h
  | cons x rest ih =>
    unfold insertEntry at h
    split at h
    · simpa using h
    · split at h
      · rcases List.mem_cons.1 h with h | h
        · exact .inl h
        · exact .inr (List.mem_cons_of_mem _ h)
      · rcases List.mem_cons.1 h with h | h
        · exact .inr (h ▸ List.mem_cons_self)
        · exact (ih h).imp id (List.mem_cons_of_mem _)

theorem lt_of_not_lt {a b : String} (h : ¬ a < b) (hne : a ≠ b) : b < a :=
  Decidable.byContradiction fun h' => hne (String.le_antisymm (String.not_lt.1 h') (String.not_lt.1 h))

theorem sorted_insertEntry {name : String} {value : α} {entries : List (String × α)}
    (h : entries.Pairwise (fun a b => a.1 < b.1)) :
    (insertEntry name value entries).Pairwise (fun a b => a.1 < b.1) := by
  induction entries with
  | nil => simp [insertEntry]
  | cons x rest ih =>
    obtain ⟨hx, hrest⟩ := List.pairwise_cons.1 h
    unfold insertEntry
    split
    next hlt =>
      refine List.pairwise_cons.2 ⟨fun e he => ?_, h⟩
      rcases List.mem_cons.1 he with rfl | he
      · exact hlt
      · exact String.lt_trans hlt (hx e he)
    next hlt =>
      split
      next heq => exact List.pairwise_cons.2 ⟨fun e he => heq ▸ hx e he, hrest⟩
      next hne =>
        refine List.pairwise_cons.2 ⟨fun e he => ?_, ih hrest⟩
        rcases mem_insertEntry he with rfl | he
        · exact lt_of_not_lt hlt hne
        · exact hx e he

/-- Gives a name a value, instead of the one it had. -/
def insert (m : NameMap α) (name : String) (value : α) : NameMap α :=
  ⟨insertEntry name value m.entries, sorted_insertEntry m.sorted⟩

def modify (m : NameMap α) (name : String) (change : α → α) : NameMap α :=
  ⟨m.entries.map fun e => (e.1, if e.1 = name then change e.2 else e.2), List.pairwise_map.2 m.sorted⟩

def filter (m : NameMap α) (test : String → α → Bool) : NameMap α :=
  ⟨m.entries.filter fun e => test e.1 e.2, m.sorted.sublist List.filter_sublist⟩

/-- The map of a list of pairs, where the last pair of a name counts. -/
def ofList (pairs : List (String × α)) : NameMap α :=
  pairs.foldl (fun m e => m.insert e.1 e.2) empty

/-! ## Look-ups -/

@[simp] theorem get?_empty (name : String) : (empty : NameMap α).get? name = none := rfl

theorem lookup_cons (e : String × α) (entries : List (String × α)) (n : String) :
    (e :: entries).lookup n = if n = e.1 then some e.2 else entries.lookup n := by
  obtain ⟨k, v⟩ := e
  rw [List.lookup_cons]
  by_cases h : n = k
  · simp [h]
  · simp [h, beq_eq_false_iff_ne.2 h]

theorem lookup_insertEntry (name : String) (value : α) (entries : List (String × α)) (n : String) :
    (insertEntry name value entries).lookup n = if n = name then some value else entries.lookup n := by
  induction entries with
  | nil => simp [insertEntry, lookup_cons]
  | cons x rest ih =>
    unfold insertEntry
    split
    next => rw [lookup_cons]
    next =>
      split
      next heq =>
        subst heq
        by_cases h : n = x.1 <;> simp [lookup_cons, h]
      next hne =>
        by_cases h : n = x.1
        · simpa [lookup_cons, h] using fun e : x.1 = name => absurd e.symm hne
        · simp [lookup_cons, h, ih]

theorem get?_insert (m : NameMap α) (name : String) (value : α) (n : String) :
    (m.insert name value).get? n = if n = name then some value else m.get? n :=
  lookup_insertEntry name value m.entries n

@[simp] theorem get?_insert_self (m : NameMap α) (name : String) (value : α) :
    (m.insert name value).get? name = some value := by simp [get?_insert]

theorem get?_modify (m : NameMap α) (name : String) (change : α → α) (n : String) :
    (m.modify name change).get? n = if n = name then (m.get? n).map change else m.get? n := by
  obtain ⟨entries, _⟩ := m
  simp only [modify, get?]
  induction entries with
  | nil => simp
  | cons x rest ih =>
    have ih := ih (by rename_i h; exact (List.pairwise_cons.1 h).2)
    by_cases h : n = x.1
    · by_cases h' : x.1 = name <;> simp [lookup_cons, h, h']
    · simpa [lookup_cons, h] using ih

theorem get?_eq_some_iff (m : NameMap α) (name : String) (value : α) :
    m.get? name = some value ↔ (name, value) ∈ m.entries := by
  obtain ⟨entries, sorted⟩ := m
  simp only [get?]
  induction entries with
  | nil => simp
  | cons x rest ih =>
    obtain ⟨hx, hrest⟩ := List.pairwise_cons.1 sorted
    rw [lookup_cons, List.mem_cons, ← ih hrest]
    by_cases h : name = x.1
    · subst h
      have hnot : rest.lookup x.1 ≠ some value := fun hl =>
        String.lt_irrefl _ (hx (x.1, value) ((ih hrest).1 hl))
      simp [hnot, Prod.ext_iff, eq_comm]
    · have hne : (name, value) ≠ x := fun e => h (congrArg Prod.fst e)
      simp [h, hne]

/-- Maps with the same look-ups have the same entries. -/
theorem ext_get? {m n : NameMap α} (h : ∀ name, m.get? name = n.get? name) : m = n := by
  have hmem : ∀ e, e ∈ m.entries ↔ e ∈ n.entries := fun e => by
    rw [← get?_eq_some_iff m e.1 e.2, ← get?_eq_some_iff n e.1 e.2, h]
  obtain ⟨xs, hxs⟩ := m
  obtain ⟨ys, hys⟩ := n
  simp only at hmem
  have : xs = ys := by
    clear h
    induction xs generalizing ys with
    | nil =>
      cases ys with
      | nil => rfl
      | cons y ys => exact absurd ((hmem y).2 List.mem_cons_self) List.not_mem_nil
    | cons x xs ih =>
      cases ys with
      | nil => exact absurd ((hmem x).1 List.mem_cons_self) List.not_mem_nil
      | cons y ys =>
        obtain ⟨hx, hxs'⟩ := List.pairwise_cons.1 hxs
        obtain ⟨hy, hys'⟩ := List.pairwise_cons.1 hys
        -- the first entries are the least ones of either list
        have hxy : x = y := by
          rcases List.mem_cons.1 ((hmem x).1 List.mem_cons_self) with e | hm
          · exact e
          · rcases List.mem_cons.1 ((hmem y).2 List.mem_cons_self) with e | hm'
            · exact e.symm
            · exact absurd (String.lt_trans (hy _ hm) (hx _ hm')) (String.lt_irrefl _)
        subst hxy
        refine congrArg _ (ih hxs' ys hys' fun e => ⟨fun he => ?_, fun he => ?_⟩)
        · rcases List.mem_cons.1 ((hmem e).1 (List.mem_cons_of_mem _ he)) with rfl | h
          · exact absurd (hx _ he) (String.lt_irrefl _)
          · exact h
        · rcases List.mem_cons.1 ((hmem e).2 (List.mem_cons_of_mem _ he)) with rfl | h
          · exact absurd (hy _ he) (String.lt_irrefl _)
          · exact h
  subst this
  rfl

end NameMap

end CatalogFinder
