import CatalogFinder.Proofs.Json.Characters
import CatalogFinder.Proofs.Snapshot.Changes
import Mathlib.Algebra.GroupWithZero.Nat
import Mathlib.Algebra.Order.BigOperators.Group.List
import Mathlib.Algebra.Order.Group.Nat

/-!
# How large a store is

The size of a store is told in characters. It is the size in bytes as long as the snapshots in it are in ASCII, and less
as soon as one is not.

* `SnapshotStore.IsEntry.lengthOf_eq` : the texts of a store are counted to their end;
* `SnapshotStore.IsTidy.load_iff` : the caches that are found are those whose texts are kept;
* `SnapshotStore.stats_size` : the size in characters, and when it is that in bytes.
-/

namespace CatalogFinder

/-- Sums of numbers that are not greater one by one are equal if the numbers are. -/
theorem sum_map_eq_iff {α : Type} {f g : α → Nat} {l : List α} (h : ∀ a ∈ l, f a ≤ g a) :
    (l.map f).sum = (l.map g).sum ↔ ∀ a ∈ l, f a = g a := by
  constructor
  · intro hsum a ha
    by_contra hne
    exact Nat.ne_of_lt (List.sum_lt_sum f g h ⟨a, ha, Nat.lt_of_le_of_ne (h a ha) hne⟩) hsum
  · intro heq
    rw [List.map_congr_left heq]

namespace SnapshotStore

/-! ## Texts -/

/-- A text that is written for a value has no zero character, so that all of it is counted. -/
theorem lengthOf_compact {j : Json} (h : j.exact = true) : lengthOf j.compact = j.compact.length := by
  have hall : ∀ c ∈ j.compact.toList, (c != '\x00') = true := by
    rw [Json.compact, String.toList_ofList]
    intro c hc
    have hblank := Json.blank_le_of_mem h c hc
    rw [bne_iff_ne]
    rintro rfl
    exact absurd hblank (by decide)
  rw [lengthOf, List.takeWhile_eq_self_iff.2 hall, String.length_toList]

theorem IsEntry.lengthOf_eq {key text : String} (h : IsEntry key text) : lengthOf text = text.length := by
  rcases h with ⟨-, cache, -, rfl⟩ | ⟨-, time, -, rfl⟩
  · exact lengthOf_compact cache.exact_toJson
  · exact lengthOf_compact (Json.exact_uint64 time)

namespace IsTidy

variable {s : SnapshotStore}

theorem size_eq (h : s.IsTidy) : s.stats.size = (s.entries.values.map String.length).sum := by
  have hvalues : ∀ text ∈ s.entries.values, lengthOf text = text.length := by
    intro text htext
    obtain ⟨key, hkey⟩ := (NameMap.mem_values_iff _ _).1 htext
    exact (h key text hkey).lengthOf_eq
  rw [← List.map_congr_left hvalues, List.sum, List.foldr_map]
  rfl

/-- The caches that are found are those that are kept. -/
theorem load_iff (h : s.IsTidy) (hash : String) (cache : Cache) :
    s.load hash = .ok (some cache) ↔ s.kept? hash = some cache.encode := by
  refine ⟨fun hload => ?_, load_of_kept⟩
  cases hkept : s.kept? hash with
  | none =>
    rw [load_of_not_kept hkept] at hload
    cases hload
  | some text =>
    rcases h (catalogKey hash) text hkept with ⟨-, found, -, rfl⟩ | ⟨other, -, hkey, -⟩
    · rw [load_of_kept hkept] at hload
      cases hload
      rfl
    · exact absurd hkey (catalogKey_ne_timeKey hash other)

/-- All texts are in ASCII if those of the caches are. -/
theorem isAscii_values_iff (h : s.IsTidy) : (∀ text ∈ s.entries.values, Text.IsAscii text) ↔
    ∀ hash cache, s.load hash = .ok (some cache) → ∀ text ∈ cache.toJson.texts, Text.IsAscii text := by
  constructor
  · intro hall hash cache hload
    rw [← Json.isAscii_compact_iff cache.exact_toJson]
    exact hall _ ((NameMap.mem_values_iff _ _).2 ⟨catalogKey hash, (h.load_iff hash cache).1 hload⟩)
  · intro hall text htext
    obtain ⟨key, hkey⟩ := (NameMap.mem_values_iff _ _).1 htext
    rcases h key text hkey with ⟨hash, cache, rfl, rfl⟩ | ⟨-, time, -, rfl⟩
    · exact (Json.isAscii_compact_iff cache.exact_toJson).2 (hall hash cache ((h.load_iff hash cache).2 hkey))
    · refine (Json.isAscii_compact_iff (Json.exact_uint64 time)).2 fun text htext => absurd htext List.not_mem_nil

end IsTidy

/-! ## Sizes -/

/-- **A store is as large as its texts are long**, in characters: this is less than in bytes, unless all that is in the
snapshots is in ASCII. -/
theorem stats_size (changes : List StoreChange) :
    (after changes).stats.size = ((after changes).entries.values.map String.length).sum ∧
      (after changes).stats.size ≤ ((after changes).entries.values.map String.utf8ByteSize).sum ∧
      ((after changes).stats.size = ((after changes).entries.values.map String.utf8ByteSize).sum ↔
        ∀ hash cache, (after changes).load hash = .ok (some cache) →
          ∀ text ∈ cache.toJson.texts, Text.IsAscii text) := by
  have htidy := isTidy_after changes
  have hle : ∀ text ∈ (after changes).entries.values, text.length ≤ text.utf8ByteSize :=
    fun text _ => Text.length_le_utf8ByteSize text
  rw [htidy.size_eq]
  refine ⟨rfl, List.sum_le_sum hle, ?_⟩
  rw [sum_map_eq_iff hle, ← htidy.isAscii_values_iff]
  exact forall₂_congr fun text _ => Text.length_eq_utf8ByteSize_iff text

/-- A schema with an umlaut in its name makes two bytes more than characters. -/
theorem stats_umlaut :
    (after [.save "abc" (Cache.insert {} { name := "MÜLLER" }) 1]).stats.size = 70 ∧
      ((after [.save "abc" (Cache.insert {} { name := "MÜLLER" }) 1]).entries.values.map String.utf8ByteSize).sum =
        72 := by
  decide

end SnapshotStore

end CatalogFinder
