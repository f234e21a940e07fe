import CatalogFinder.Proofs.Snapshot.Ledger

/-!
# Stores that hold any snapshots

A store takes any text for a hash, be it written like a digest or not. Whatever is saved, deleted and cleared, each text
in the store is that of a cache or that of a time, and its key says which.

* `StoreChange`, `SnapshotStore.after` : a store that has been changed any number of times;
* `SnapshotStore.IsTidy` : its texts and their keys;
* `SnapshotStore.isTidy_after` : every store is tidy.
-/

namespace CatalogFinder

/-- What changes a store, under any hash. -/
inductive StoreChange where
  | save (hash : String) (cache : Cache) (time : UInt64)
  | delete (hash : String)
  | clear

namespace SnapshotStore

/-- The store after a change. A deletion that is refused changes nothing. -/
def change (s : SnapshotStore) : StoreChange → SnapshotStore
  | .save hash cache time => s.save hash cache time.toNat
  | .delete hash =>
    match s.delete hash with
    | .ok (_, later) => later
    | .error _ => s
  | .clear => s.clear

/-- The store after some changes. Before them there is nothing in it. -/
def after (changes : List StoreChange) : SnapshotStore := changes.foldl change empty

/-- The key is that of a cache and the text says which, or the key is that of a time and the text says which. -/
def IsEntry (key text : String) : Prop :=
  (∃ hash cache, key = catalogKey hash ∧ text = Cache.encode cache) ∨
    ∃ hash time, key = timeKey hash ∧ text = timeText time

/-- There are only texts of caches and of times in the store, each under a key of its kind. -/
def IsTidy (s : SnapshotStore) : Prop := ∀ key text, s.entries.get? key = some text → IsEntry key text

namespace IsTidy

variable {s : SnapshotStore}

theorem of_entries_empty (h : s.entries = ∅) : s.IsTidy := by
  intro key text hkey
  rw [h] at hkey
  cases hkey

theorem save (h : s.IsTidy) (hash : String) (cache : Cache) (time : UInt64) :
    (s.save hash cache time.toNat).IsTidy := by
  intro key text hkey
  unfold SnapshotStore.save at hkey
  rw [NameMap.get?_insert, NameMap.get?_insert] at hkey
  split at hkey
  next htime =>
    cases hkey
    exact .inr ⟨hash, time, htime, rfl⟩
  next =>
    split at hkey
    next hcatalog =>
      cases hkey
      exact .inl ⟨hash, cache, hcatalog, rfl⟩
    next => exact h key text hkey

theorem delete (h : s.IsTidy) {later : SnapshotStore} {hash : String} {removed : Nat}
    (hdelete : s.delete hash = .ok (removed, later)) : later.IsTidy := by
  intro key text hkey
  rw [eq_of_delete hdelete, NameMap.get?_filter] at hkey
  exact h key text (Option.filter_eq_some_iff.1 hkey).1

theorem change (h : s.IsTidy) (c : StoreChange) : (s.change c).IsTidy := by
  cases c with
  | save hash cache time => exact h.save hash cache time
  | delete hash =>
    simp only [SnapshotStore.change]
    split
    next removed later hdelete => exact h.delete hdelete
    next => exact h
  | clear => exact of_entries_empty rfl

end IsTidy

/-- There are only texts of caches and of times in a store, whatever has been done to it. -/
theorem isTidy_after (changes : List StoreChange) : (after changes).IsTidy := by
  have hempty : empty.IsTidy := .of_entries_empty rfl
  unfold after
  -- each change keeps a store tidy, from whichever it starts
  generalize empty = s at hempty
  induction changes generalizing s with
  | nil => exact hempty
  | cons c changes ih => exact ih _ (hempty.change c)

end SnapshotStore

end CatalogFinder
