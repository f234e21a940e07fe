import CatalogFinder.NameMap
import Mathlib.Data.List.Nodup

/-!
# Look-ups in maps

* `NameMap.get?_filter` : look-ups among the entries that a test accepts;
* `NameMap.restrict` : the entries of some names, and what changes of the map do to them;
* `NameMap.ofList_entries` : the entries of a map make the map;
* `NameMap.nodup_flatMap_values` : lists of values, one after the other;
* `NameMap.size_filter_ne` : how many entries are left without one name.
-/

namespace CatalogFinder

namespace NameMap

variable {α : Type}

theorem get?_filter (m : NameMap α) (test : String → α → Bool) (n : String) :
    (m.filter test).get? n = (m.get? n).filter (test n ·) := by
  apply Option.ext
  intro a
  rw [get?_eq_some_iff, Option.filter_eq_some_iff, get?_eq_some_iff]
  exact List.mem_filter

theorem get?_filter_ne (m : NameMap α) (name n : String) :
    (m.filter fun other _ => other ≠ name).get? n = if n = name then none else m.get? n := by
  rw [get?_filter]
  by_cases h : n = name <;> cases m.get? n <;> simp [h]

/-! ## Restrictions -/

/-- The entries whose names are kept. -/
def restrict (m : NameMap α) (keeps : String → Bool) : NameMap α := m.filter fun name _ => keeps name

theorem get?_restrict (m : NameMap α) (keeps : String → Bool) (n : String) :
    (m.restrict keeps).get? n = if keeps n then m.get? n else none := by
  rw [restrict, get?_filter]
  cases keeps n <;> cases m.get? n <;> rfl

theorem get?_restrict_of_kept {keeps : String → Bool} {n : String} (h : keeps n = true) (m : NameMap α) :
    (m.restrict keeps).get? n = m.get? n := by
  rw [get?_restrict, if_pos h]

theorem get?_restrict_of_not_kept {keeps : String → Bool} {n : String} (h : keeps n = false) (m : NameMap α) :
    (m.restrict keeps).get? n = none := by
  rw [get?_restrict, h]
  rfl

theorem restrict_empty (keeps : String → Bool) : (∅ : NameMap α).restrict keeps = ∅ := rfl

/-- What is inserted under a name that is kept is inserted into the restriction. -/
theorem restrict_insert_of_kept {keeps : String → Bool} {name : String} (h : keeps name = true) (m : NameMap α)
    (value : α) : (m.insert name value).restrict keeps = (m.restrict keeps).insert name value := by
  apply ext_get?
  intro n
  rw [get?_restrict, get?_insert, get?_insert, get?_restrict]
  by_cases hn : n = name
  · simp [hn, h]
  · simp [hn]

/-- What is inserted under another name leaves the restriction as it is. -/
theorem restrict_insert_of_not_kept {keeps : String → Bool} {name : String} (h : keeps name = false) (m : NameMap α)
    (value : α) : (m.insert name value).restrict keeps = m.restrict keeps := by
  apply ext_get?
  intro n
  rw [get?_restrict, get?_insert, get?_restrict]
  by_cases hn : n = name
  · simp [hn, h]
  · simp [hn]

/-! ## Entries -/

theorem lookup_eq_none_of_lt {e : String × α} {entries : List (String × α)} (h : ∀ x ∈ entries, e.1 < x.1) :
    entries.lookup e.1 = none := by
  induction entries with
  | nil => rfl
  | cons x entries ih =>
    have hlt : e.1 < x.1 := h x List.mem_cons_self
    have hne : e.1 ≠ x.1 := fun heq => String.lt_irrefl _ (heq ▸ hlt)
    rw [lookup_cons, if_neg hne]
    exact ih fun y hy => h y (List.mem_cons_of_mem _ hy)

theorem get?_foldl_insert (entries : List (String × α)) (h : entries.Pairwise (fun a b => a.1 < b.1)) (m : NameMap α)
    (n : String) : (entries.foldl (fun m e => m.insert e.1 e.2) m).get? n = (entries.lookup n).or (m.get? n) := by
  induction entries generalizing m with
  | nil => rfl
  | cons e entries ih =>
    obtain ⟨hfirst, hrest⟩ := List.pairwise_cons.1 h
    rw [List.foldl_cons, ih hrest, lookup_cons, get?_insert]
    by_cases hn : n = e.1
    · subst hn
      simp [lookup_eq_none_of_lt hfirst]
    · simp [hn]

/-- The entries of a map make the map. -/
theorem ofList_entries (m : NameMap α) : ofList m.entries = m := by
  apply ext_get?
  intro n
  rw [ofList, get?_foldl_insert _ m.sorted, get?_empty, Option.or_none]
  rfl

/-! ## Names and values -/

theorem nodup_names (m : NameMap α) : m.names.Nodup := by
  refine List.pairwise_map.2 (m.sorted.imp ?_)
  intro a b hlt heq
  exact String.lt_irrefl b.1 (heq ▸ hlt)

theorem mem_names_iff (m : NameMap α) (n : String) : n ∈ m.names ↔ (m.get? n).isSome = true := by
  rw [names, List.mem_map, Option.isSome_iff_exists]
  constructor
  · rintro ⟨e, he, rfl⟩
    exact ⟨e.2, (get?_eq_some_iff m e.1 e.2).2 he⟩
  · rintro ⟨a, ha⟩
    exact ⟨(n, a), (get?_eq_some_iff m n a).1 ha, rfl⟩

/-- The values of a map are those that it has under some name. -/
theorem mem_values_iff (m : NameMap α) (a : α) : a ∈ m.values ↔ ∃ n, m.get? n = some a := by
  rw [values, List.mem_map]
  constructor
  · rintro ⟨e, he, rfl⟩
    exact ⟨e.1, (get?_eq_some_iff m e.1 e.2).2 he⟩
  · rintro ⟨n, hn⟩
    exact ⟨(n, a), (get?_eq_some_iff m n a).1 hn, rfl⟩

/-- What is listed for the values of a map has no repetitions, if each list has none and tells the name. -/
theorem nodup_flatMap_values {β : Type} {m : NameMap α} {list : α → List β} (name : β → String)
    (h : ∀ n a, m.get? n = some a → (list a).Nodup ∧ ∀ b ∈ list a, name b = n) : (m.values.flatMap list).Nodup := by
  have hentry : ∀ e ∈ m.entries, (list e.2).Nodup ∧ ∀ b ∈ list e.2, name b = e.1 :=
    fun e he => h e.1 e.2 ((get?_eq_some_iff m e.1 e.2).2 he)
  rw [values, List.flatMap_map, List.nodup_flatMap]
  refine ⟨fun e he => (hentry e he).1, m.sorted.imp_of_mem ?_⟩
  intro e f he hf hlt b hbe hbf
  have hsame : e.1 = f.1 := ((hentry e he).2 b hbe).symm.trans ((hentry f hf).2 b hbf)
  exact String.lt_irrefl f.1 (hsame ▸ hlt)

/-! ## Sizes -/

/-- A map has the names that a test leaves out and those that it does not. -/
theorem size_filter_not (m : NameMap α) (test : String → Bool) :
    m.size = (m.filter fun name _ => !test name).size + (m.names.filter test).length := by
  have hout : (m.names.filter test).length = m.entries.countP fun e => test e.1 := by
    rw [names, ← List.countP_eq_length_filter, List.countP_map]
    rfl
  have hkept : (m.filter fun name _ => !test name).size = m.entries.countP fun e => decide ¬ test e.1 = true := by
    rw [size, filter, ← List.countP_eq_length_filter]
    exact List.countP_congr fun e _ => by simp
  rw [hout, hkept, size, List.length_eq_countP_add_countP fun e : String × α => test e.1, Nat.add_comm]

theorem size_filter_ne (m : NameMap α) (n : String) :
    m.size = (m.filter fun name _ => name ≠ n).size + if (m.get? n).isSome then 1 else 0 := by
  have hcount : (m.names.filter (· == n)).length = if (m.get? n).isSome then 1 else 0 := by
    rw [← List.countP_eq_length_filter, ← List.count, m.nodup_names.count]
    simp only [mem_names_iff]
  have hkept : (fun name (_ : α) => !(name == n)) = fun name _ => decide (name ≠ n) := by
    funext name _
    rw [decide_not, beq_eq_decide]
  rw [← hcount, ← hkept]
  exact m.size_filter_not (· == n)

end NameMap

end CatalogFinder
