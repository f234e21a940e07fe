import CatalogFinder.Proofs.Json.Search
import CatalogFinder.Proofs.NameMap
import CatalogFinder.Proofs.Snapshot.Store

/-!
# A store is a map

A store keeps two texts for a snapshot, under keys that start with its hash, and finds them again by patterns. Seen from
outside it is a map from hashes to what was saved under them last.

* `StoreCommand`, `StoreAnswer` : what is asked of a store, and what it says;
* `Ledger` : the map, with the same commands;
* `SnapshotStore.Represents` : the texts that a store keeps for a ledger, and that there are no others;
* `Represents.step` : a command answers alike, and keeps store and ledger together;
* `SnapshotStore.run_eq_ledger` : every run answers as the ledger does.
-/

namespace CatalogFinder

/-- A hash that is written like a digest. -/
structure SnapshotHash where
  text : String
  isDigest : IsDigest text

/-- What is asked of a store. Another program may have marked it with a version before it is opened again. -/
inductive StoreCommand where
  | mark (version : Option String)
  | reopen
  | save (hash : SnapshotHash) (cache : Cache) (time : UInt64)
  | load (hash : SnapshotHash)
  | loadedAt (hash : SnapshotHash)
  | delete (hash : SnapshotHash)
  | clear
  | stats

/-- What a store says. -/
inductive StoreAnswer where
  | done
  | cache (found : Option Cache)
  | time (found : Option UInt64)
  | removed (entries : Nat)
  | count (snapshots : Nat)

/-! ## The map -/

/-- What was saved last under each hash, and whether the next opening forgets it. -/
structure Ledger where
  snapshots : NameMap (Cache × UInt64) := ∅
  outdated : Bool := false

/-- The version that a store is marked with is another than the current one. -/
def SnapshotStore.isOutdated (version : Option String) : Bool :=
  version.any fun v => Text.unsigned? v ≠ some currentVersion

namespace Ledger

def step (l : Ledger) : StoreCommand → StoreAnswer × Ledger
  | .mark version => (.done, { l with outdated := SnapshotStore.isOutdated version })
  | .reopen => (.done, if l.outdated then {} else l)
  | .save hash cache time => (.done, { l with snapshots := l.snapshots.insert hash.text (cache, time) })
  | .load hash => (.cache ((l.snapshots.get? hash.text).map (·.1)), l)
  | .loadedAt hash => (.time ((l.snapshots.get? hash.text).map (·.2)), l)
  | .delete hash =>
    (.removed (if l.snapshots.contains hash.text then 2 else 0),
      { l with snapshots := l.snapshots.filter fun name _ => name ≠ hash.text })
  | .clear => (.done, { l with snapshots := ∅ })
  | .stats => (.count l.snapshots.size, l)

/-- The answers to some commands, and what is left. -/
def run : Ledger → List StoreCommand → List StoreAnswer × Ledger
  | l, [] => ([], l)
  | l, command :: rest =>
    let (answer, next) := l.step command
    let (answers, last) := next.run rest
    (answer :: answers, last)

end Ledger

namespace SnapshotStore

def step (s : SnapshotStore) : StoreCommand → Except StoreError (StoreAnswer × SnapshotStore)
  | .mark version => .ok (.done, { s with version })
  | .reopen => .ok (.done, s.opened)
  | .save hash cache time => .ok (.done, s.save hash.text cache time.toNat)
  | .load hash => (s.load hash.text).map fun found => (.cache found, s)
  | .loadedAt hash => (s.loadedAt hash.text).map fun found => (.time found, s)
  | .delete hash => (s.delete hash.text).map fun removed => (.removed removed.1, removed.2)
  | .clear => .ok (.done, s.clear)
  | .stats => .ok (.count s.stats.count, s)

/-- The answers to some commands, and the store that is left. -/
def run : SnapshotStore → List StoreCommand → Except StoreError (List StoreAnswer × SnapshotStore)
  | s, [] => .ok ([], s)
  | s, command :: rest => do
    let (answer, next) ← s.step command
    let (answers, last) ← next.run rest
    return (answer :: answers, last)

/-! ## The texts of a ledger -/

/-- The text of a time. -/
def timeText (time : UInt64) : String := (Json.integer time.toNat).compact

/-- The store keeps the texts of the ledger's snapshots, and no others. -/
structure Represents (s : SnapshotStore) (l : Ledger) : Prop where
  digests : ∀ hash, (l.snapshots.get? hash).isSome → IsDigest hash
  caches : ∀ hash, s.entries.get? (catalogKey hash) = (l.snapshots.get? hash).map (·.1.encode)
  times : ∀ hash, s.entries.get? (timeKey hash) = (l.snapshots.get? hash).map (timeText ·.2)
  keys : ∀ key, (s.entries.get? key).isSome → ∃ hash, key = catalogKey hash ∨ key = timeKey hash
  version : l.outdated = isOutdated s.version

/-! ## Openings -/

theorem isOutdated_opened (s : SnapshotStore) : isOutdated s.opened.version = false := by
  obtain ⟨v, hversion, hcurrent⟩ := isCurrent_opened s
  simp [isOutdated, hversion, hcurrent]

theorem entries_opened (s : SnapshotStore) : s.opened.entries = if isOutdated s.version then ∅ else s.entries := by
  unfold opened isOutdated
  cases s.version with
  | none => rfl
  | some v =>
    by_cases h : Text.unsigned? v = some currentVersion
    · simp [h]
    · simp [h, SnapshotStore.clear]

namespace Represents

variable {s : SnapshotStore} {l : Ledger}

/-- A key is that of a snapshot in the ledger. -/
theorem key_cases (h : s.Represents l) {key : String} (hkey : (s.entries.get? key).isSome) :
    ∃ hash, IsDigest hash ∧ (l.snapshots.get? hash).isSome ∧ (key = catalogKey hash ∨ key = timeKey hash) := by
  obtain ⟨hash, hcases⟩ := h.keys key hkey
  have hpresent : (l.snapshots.get? hash).isSome := by
    rcases hcases with rfl | rfl
    · rwa [h.caches, Option.isSome_map] at hkey
    · rwa [h.times, Option.isSome_map] at hkey
  exact ⟨hash, h.digests hash hpresent, hpresent, hcases⟩

theorem of_entries_empty (hentries : s.entries = ∅) : s.Represents { outdated := isOutdated s.version } where
  digests _ hpresent := by cases hpresent
  caches _ := by rw [hentries]; rfl
  times _ := by rw [hentries]; rfl
  keys _ hkey := by rw [hentries] at hkey; cases hkey
  version := rfl

theorem of_entries_eq {s' : SnapshotStore} (h : s.Represents l) (hentries : s'.entries = s.entries) :
    s'.Represents { l with outdated := isOutdated s'.version } where
  digests := h.digests
  caches := by rw [hentries]; exact h.caches
  times := by rw [hentries]; exact h.times
  keys := by rw [hentries]; exact h.keys
  version := rfl

/-! ## What is changed -/

theorem empty : SnapshotStore.empty.Represents {} := by
  have h : SnapshotStore.empty.Represents { outdated := isOutdated SnapshotStore.empty.version } := of_entries_empty rfl
  rwa [SnapshotStore.empty, isOutdated_opened] at h

theorem clear (h : s.Represents l) : s.clear.Represents { l with snapshots := ∅ } := by
  have hclear : s.clear.Represents { outdated := isOutdated s.version } := of_entries_empty rfl
  rwa [← h.version] at hclear

/-- Opening keeps the snapshots of a store that is not outdated, and empties any other. -/
theorem opened (h : s.Represents l) : s.opened.Represents (if l.outdated then {} else l) := by
  have hentries := s.entries_opened
  rw [← h.version] at hentries
  cases hold : l.outdated with
  | true =>
    rw [hold, if_pos rfl] at hentries
    have hforgotten := of_entries_empty hentries
    rwa [isOutdated_opened] at hforgotten
  | false =>
    rw [hold, if_neg Bool.false_ne_true] at hentries
    have hkept := h.of_entries_eq hentries
    rwa [isOutdated_opened, ← hold] at hkept

theorem save (h : s.Represents l) (hash : SnapshotHash) (cache : Cache) (time : UInt64) :
    (s.save hash.text cache time.toNat).Represents
      { l with snapshots := l.snapshots.insert hash.text (cache, time) } where
  digests other hpresent := by
    rw [NameMap.get?_insert] at hpresent
    by_cases heq : other = hash.text
    · exact heq ▸ hash.isDigest
    · rw [if_neg heq] at hpresent
      exact h.digests other hpresent
  caches other := by
    unfold SnapshotStore.save
    rw [NameMap.get?_insert, if_neg (catalogKey_ne_timeKey other hash.text), NameMap.get?_insert, NameMap.get?_insert,
      h.caches]
    by_cases heq : other = hash.text <;> simp [catalogKey_inj, heq]
  times other := by
    unfold SnapshotStore.save
    have hne : timeKey other ≠ catalogKey hash.text := (catalogKey_ne_timeKey hash.text other).symm
    rw [NameMap.get?_insert, NameMap.get?_insert, if_neg hne, NameMap.get?_insert, h.times]
    by_cases heq : other = hash.text <;> simp [timeKey_inj, heq, timeText]
  keys key hkey := by
    unfold SnapshotStore.save at hkey
    rw [NameMap.get?_insert, NameMap.get?_insert] at hkey
    by_cases htime : key = timeKey hash.text
    · exact ⟨hash.text, .inr htime⟩
    by_cases hcatalog : key = catalogKey hash.text
    · exact ⟨hash.text, .inl hcatalog⟩
    rw [if_neg htime, if_neg hcatalog] at hkey
    exact h.keys key hkey
  version := h.version

/-! ## What is found -/

theorem load (h : s.Represents l) (hash : String) : s.load hash = .ok ((l.snapshots.get? hash).map (·.1)) := by
  have hcache : s.kept? hash = (l.snapshots.get? hash).map (·.1.encode) := h.caches hash
  cases hfound : l.snapshots.get? hash with
  | none => exact load_of_not_kept (by rw [hcache, hfound]; rfl)
  | some snapshot => exact load_of_kept (by rw [hcache, hfound]; rfl)

theorem loadedAt (h : s.Represents l) (hash : String) : s.loadedAt hash = .ok ((l.snapshots.get? hash).map (·.2)) := by
  have htime := h.times hash
  unfold SnapshotStore.loadedAt SnapshotStore.read
  rw [htime]
  cases hfound : l.snapshots.get? hash with
  | none => rfl
  | some snapshot =>
    have hread : (Json.parse? (timeText snapshot.2)).bind Json.uint64? = some snapshot.2 :=
      Json.read_compact (Json.exact_uint64 snapshot.2) (Json.uint64?_toNat snapshot.2)
    simp only [Option.map_some, hread]

/-! ## What is removed -/

/-- The texts that a deletion keeps are those under other keys than the two of the snapshot. -/
theorem kept_by_delete (h : s.Represents l) (hash : SnapshotHash) :
    s.entries.filter (fun key _ => !isLike (hash.text ++ ":%") key) =
      (s.entries.filter fun key _ => key ≠ catalogKey hash.text).filter fun key _ => key ≠ timeKey hash.text := by
  apply NameMap.ext_get?
  intro key
  rw [NameMap.get?_filter, NameMap.get?_filter_ne, NameMap.get?_filter_ne]
  cases hget : s.entries.get? key with
  | none => simp
  | some text =>
    obtain ⟨other, hother, -, hkey⟩ := h.key_cases (by rw [hget]; rfl)
    have hcomm : other = hash.text ↔ hash.text = other := eq_comm
    -- the pattern is like the keys of its own hash only
    rcases hkey with rfl | rfl
    · rw [hash.isDigest.isLike_catalogKey hother, if_neg (catalogKey_ne_timeKey other hash.text)]
      by_cases heq : hash.text = other <;> simp [catalogKey_inj, hcomm, heq]
    · rw [hash.isDigest.isLike_timeKey hother, if_neg (catalogKey_ne_timeKey hash.text other).symm]
      by_cases heq : hash.text = other <;> simp [timeKey_inj, hcomm, heq]

/-- Both texts of a snapshot are removed, or none is there. -/
theorem size_kept_by_delete (h : s.Represents l) (hash : SnapshotHash) :
    s.entries.size - (s.entries.filter fun key _ => !isLike (hash.text ++ ":%") key).size =
      if l.snapshots.contains hash.text then 2 else 0 := by
  have hcatalog := s.entries.size_filter_ne (catalogKey hash.text)
  have htime := (s.entries.filter fun key _ => key ≠ catalogKey hash.text).size_filter_ne (timeKey hash.text)
  rw [NameMap.get?_filter_ne, if_neg (catalogKey_ne_timeKey hash.text hash.text).symm, h.times, Option.isSome_map]
    at htime
  rw [h.caches, Option.isSome_map] at hcatalog
  rw [h.kept_by_delete hash, NameMap.contains]
  cases hpresent : (l.snapshots.get? hash.text).isSome <;>
    simp only [hpresent, if_true, Bool.false_eq_true, if_false] at hcatalog htime ⊢ <;> omega

theorem deleted (h : s.Represents l) (hash : SnapshotHash) :
    { s with entries := s.entries.filter fun key _ => !isLike (hash.text ++ ":%") key }.Represents
      { l with snapshots := l.snapshots.filter fun name _ => name ≠ hash.text } := by
  rw [h.kept_by_delete hash]
  exact {
    digests := fun other hpresent => by
      rw [NameMap.get?_filter_ne] at hpresent
      split at hpresent
      · cases hpresent
      · exact h.digests other hpresent
    caches := fun other => by
      rw [NameMap.get?_filter_ne, NameMap.get?_filter_ne, NameMap.get?_filter_ne, h.caches,
        if_neg (catalogKey_ne_timeKey other hash.text)]
      by_cases heq : other = hash.text <;> simp [catalogKey_inj, heq]
    times := fun other => by
      rw [NameMap.get?_filter_ne, NameMap.get?_filter_ne, NameMap.get?_filter_ne, h.times,
        if_neg (catalogKey_ne_timeKey hash.text other).symm]
      by_cases heq : other = hash.text <;> simp [timeKey_inj, heq]
    keys := fun key hkey => by
      rw [NameMap.get?_filter_ne, NameMap.get?_filter_ne] at hkey
      split at hkey
      · cases hkey
      split at hkey
      · cases hkey
      exact h.keys key hkey
    version := h.version }

/-- The pattern of a deletion is never refused. -/
theorem delete (h : s.Represents l) (hash : SnapshotHash) :
    s.delete hash.text = .ok (if l.snapshots.contains hash.text then 2 else 0,
      { s with entries := s.entries.filter fun key _ => !isLike (hash.text ++ ":%") key }) := by
  have hshort : (maxPatternSize < (hash.text ++ ":%").utf8ByteSize && s.entries.size ≠ 0) = false := by
    rw [hash.isDigest.pattern_size]
    rfl
  unfold SnapshotStore.delete
  simp only [hshort, h.size_kept_by_delete hash, Bool.false_eq_true, if_false]

/-! ## What is counted -/

/-- The keys that are counted are those of the caches, one for each snapshot. -/
theorem count (h : s.Represents l) : s.stats.count = l.snapshots.size := by
  have hperm : (s.entries.names.filter (isLike "%:catalog" ·)).Perm (l.snapshots.names.map catalogKey) := by
    -- no name is there twice on either side, so the same names suffice
    refine (List.perm_ext_iff_of_nodup (s.entries.nodup_names.filter _) ?_).2 fun key => ?_
    · exact l.snapshots.nodup_names.map fun a b heq => catalogKey_inj.1 heq
    rw [List.mem_filter, NameMap.mem_names_iff, List.mem_map]
    constructor
    · rintro ⟨hkey, hlike⟩
      obtain ⟨hash, hdigest, hpresent, rfl | rfl⟩ := h.key_cases hkey
      · exact ⟨hash, (NameMap.mem_names_iff _ _).2 hpresent, rfl⟩
      · rw [hdigest.isLike_counted_timeKey] at hlike
        cases hlike
    · rintro ⟨hash, hmem, rfl⟩
      have hpresent := (NameMap.mem_names_iff _ _).1 hmem
      refine ⟨?_, (h.digests hash hpresent).isLike_counted_catalogKey⟩
      rwa [h.caches, Option.isSome_map]
  calc
    s.stats.count = (l.snapshots.names.map catalogKey).length := hperm.length_eq
    _ = l.snapshots.names.length := List.length_map catalogKey
    _ = l.snapshots.size := List.length_map Prod.fst

/-! ## Runs -/

/-- A command answers as the ledger does, and keeps store and ledger together. -/
theorem step (h : s.Represents l) (command : StoreCommand) :
    ∃ s', s.step command = .ok ((l.step command).1, s') ∧ s'.Represents (l.step command).2 := by
  cases command with
  | mark version => exact ⟨{ s with version }, rfl, h.of_entries_eq rfl⟩
  | reopen => exact ⟨s.opened, rfl, h.opened⟩
  | save hash cache time => exact ⟨s.save hash.text cache time.toNat, rfl, h.save hash cache time⟩
  | load hash =>
    refine ⟨s, ?_, h⟩
    rw [SnapshotStore.step, h.load hash.text]
    rfl
  | loadedAt hash =>
    refine ⟨s, ?_, h⟩
    rw [SnapshotStore.step, h.loadedAt hash.text]
    rfl
  | delete hash =>
    refine ⟨_, ?_, h.deleted hash⟩
    rw [SnapshotStore.step, h.delete hash]
    rfl
  | clear => exact ⟨s.clear, rfl, h.clear⟩
  | stats =>
    refine ⟨s, ?_, h⟩
    rw [SnapshotStore.step, h.count]
    rfl

theorem run (h : s.Represents l) (commands : List StoreCommand) :
    ∃ s', s.run commands = .ok ((l.run commands).1, s') ∧ s'.Represents (l.run commands).2 := by
  -- the store keeps the ledger's texts after every command, so the next one is answered alike too
  induction commands generalizing s l with
  | nil => exact ⟨s, rfl, h⟩
  | cons command rest ih =>
    obtain ⟨next, hstep, hnext⟩ := h.step command
    obtain ⟨last, hrun, hlast⟩ := ih hnext
    refine ⟨last, ?_, hlast⟩
    rw [SnapshotStore.run, hstep]
    show (next.run rest >>= fun answers => _) = _
    rw [hrun]
    rfl

end Represents

/-- Every run of a store that starts empty answers as the ledger does, and ends with the texts of the ledger. -/
theorem run_eq_ledger (commands : List StoreCommand) :
    ∃ s, empty.run commands = .ok ((Ledger.run {} commands).1, s) ∧ s.Represents (Ledger.run {} commands).2 :=
  Represents.empty.run commands

end SnapshotStore

end CatalogFinder
