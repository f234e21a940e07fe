import CatalogFinder.Digest.Sha256
import CatalogFinder.Proofs.Json.Catalog
import CatalogFinder.Proofs.Tables.Masks
import CatalogFinder.Proofs.Text.Ascii
import CatalogFinder.Snapshot.Store

/-!
# What a store keeps under a hash

The operations of a store, told by what is kept under each hash. A hash is written in 64 hexadecimal digits, so that
the pattern by which a snapshot is deleted is like the keys of this snapshot only.

* `IsDigest.isLike_append`, `IsDigest.isLike_counted` : which keys the patterns of a store are like;
* `SnapshotStore.kept?` : the text kept under a hash;
* `kept?_save`, `kept?_delete`, `kept?_clear` : what the operations keep;
* `IsCurrent` : the store has the current version, and is not changed when it is opened.
-/

namespace CatalogFinder

/-! ## Hashes -/

/-- The hash is written like a digest. -/
structure IsDigest (hash : String) : Prop where
  length : hash.toList.length = 64
  digits : ∀ c ∈ hash.toList, c ∈ Text.hexDigits

theorem Sha256.isDigest_hex (text : String) : IsDigest (hex text) where
  length := by rw [String.length_toList, length_hex]
  digits _ hc := mem_hex hc

namespace Text

theorem hexDigit_covers {p c : Char} (hp : p ∈ hexDigits) (hc : c ∈ hexDigits) :
    LikeRule.asciiFolded.covers p c = decide (p = c) ∧ p ≠ '%' := by
  have hall : hexDigits.all (fun p => hexDigits.all fun c =>
      LikeRule.asciiFolded.covers p c == decide (p = c) && p != '%') = true := by decide
  have hboth := List.all_eq_true.1 (List.all_eq_true.1 hall p hp) c hc
  rw [Bool.and_eq_true, beq_iff_eq, bne_iff_ne] at hboth
  exact hboth

/-- Characters that are compared as they are. -/
theorem isPlain_of_all {cs : List Char} (h : cs.all (fun c => c != '\x00' && comparedChar c == c) = true) :
    ∀ c ∈ cs, c ≠ '\x00' ∧ comparedChar c = c := by
  intro c hc
  have hboth := List.all_eq_true.1 h c hc
  rw [Bool.and_eq_true, bne_iff_ne, beq_iff_eq] at hboth
  exact hboth

/-- Hexadecimal digits at the start of a pattern are like the same digits only. -/
theorem likeChars_hexDigits {l l' : List Char} (hl : ∀ c ∈ l, c ∈ hexDigits) (hl' : ∀ c ∈ l', c ∈ hexDigits)
    (hlength : l.length = l'.length) (ps cs : List Char) :
    likeChars .asciiFolded (l ++ ps) (l' ++ cs) = (decide (l = l') && likeChars .asciiFolded ps cs) := by
  induction l generalizing l' with
  | nil =>
    cases l' with
    | nil => rfl
    | cons c l' => cases hlength
  | cons p l ih =>
    cases l' with
    | nil => cases hlength
    | cons c l' =>
      -- a digit is no wildcard, and there are no upper-case digits to take it for
      obtain ⟨hcovers, hp⟩ := hexDigit_covers (hl p List.mem_cons_self) (hl' c List.mem_cons_self)
      have hrest := ih (fun c hc => hl c (List.mem_cons_of_mem _ hc)) (fun c hc => hl' c (List.mem_cons_of_mem _ hc))
        (Nat.succ.inj hlength)
      rw [List.cons_append, List.cons_append, likeChars_char_cons _ hp, hcovers, hrest]
      by_cases hpc : p = c <;> simp [hpc]

/-- A wildcard with a colon behind it passes over hexadecimal digits. -/
theorem likeChars_run_hexDigits {l : List Char} (hl : ∀ c ∈ l, c ∈ hexDigits) (ps cs : List Char) :
    likeChars .asciiFolded ('%' :: ':' :: ps) (l ++ cs) = likeChars .asciiFolded ('%' :: ':' :: ps) cs := by
  induction l with
  | nil => rfl
  | cons c l ih =>
    have hall : hexDigits.all (fun c => !LikeRule.asciiFolded.covers ':' c) = true := by decide
    have hcolon : LikeRule.asciiFolded.covers ':' c = false := by
      simpa using List.all_eq_true.1 hall c (hl c List.mem_cons_self)
    have hwild : LikeRule.asciiFolded.wild c = true := rfl
    rw [List.cons_append, likeChars_run_cons, likeChars_char_cons _ (by decide), hcolon, hwild, Bool.false_and,
      Bool.false_or, Bool.true_and]
    exact ih fun d hd => hl d (List.mem_cons_of_mem _ hd)

/-- Hexadecimal digits are one byte each. -/
theorem utf8ByteSize_hexDigits {cs : List Char} (h : ∀ c ∈ cs, c ∈ hexDigits) :
    (String.ofList cs).utf8ByteSize = cs.length := by
  have hall : hexDigits.all (fun c => c.toNat < 0x80) = true := by decide
  exact utf8ByteSize_ofList fun c hc => of_decide_eq_true (List.all_eq_true.1 hall c (h c hc))

end Text

namespace IsDigest

variable {hash other : String}

theorem isPlain_append (h : IsDigest hash) {ending : String} (hending : Text.IsPlain ending) :
    Text.IsPlain (hash ++ ending) := by
  have hdigits := Text.isPlain_of_all (show Text.hexDigits.all (fun c => c != '\x00' && Text.comparedChar c == c) = true
    by decide)
  intro c hc
  rw [String.toList_append, List.mem_append] at hc
  rcases hc with hc | hc
  · exact hdigits c (h.digits c hc)
  · exact hending c hc

/-- The pattern that a snapshot is deleted by is like a key of its own, and of no other snapshot's. -/
theorem isLike_append (h : IsDigest hash) (hother : IsDigest other) {ending : String} (hplain : Text.IsPlain ending)
    (hending : Text.likeChars .asciiFolded ":%".toList ending.toList = true) :
    SnapshotStore.isLike (hash ++ ":%") (other ++ ending) = decide (hash = other) := by
  have hpattern : Text.IsPlain ":%" := Text.isPlain_of_all (by decide)
  have hlength : hash.toList.length = other.toList.length := h.length.trans hother.length.symm
  unfold SnapshotStore.isLike
  rw [Text.compared_eq_of_plain (h.isPlain_append hpattern), Text.compared_eq_of_plain (hother.isPlain_append hplain),
    String.toList_append, String.toList_append, Text.likeChars_hexDigits h.digits hother.digits hlength, hending,
    Bool.and_true]
  simp only [String.toList_inj]

theorem isLike_catalogKey (h : IsDigest hash) (hother : IsDigest other) :
    SnapshotStore.isLike (hash ++ ":%") (SnapshotStore.catalogKey other) = decide (hash = other) :=
  h.isLike_append hother (Text.isPlain_of_all (by decide)) (by decide)

theorem isLike_timeKey (h : IsDigest hash) (hother : IsDigest other) :
    SnapshotStore.isLike (hash ++ ":%") (SnapshotStore.timeKey other) = decide (hash = other) :=
  h.isLike_append hother (Text.isPlain_of_all (by decide)) (by decide)

/-- The pattern that snapshots are counted by looks at the ending of a key. -/
theorem isLike_counted (h : IsDigest hash) {ending : String} (hplain : Text.IsPlain ending) :
    SnapshotStore.isLike "%:catalog" (hash ++ ending) =
      Text.likeChars .asciiFolded "%:catalog".toList ending.toList := by
  have hpattern : Text.IsPlain "%:catalog" := Text.isPlain_of_all (by decide)
  unfold SnapshotStore.isLike
  rw [Text.compared_eq_of_plain hpattern, Text.compared_eq_of_plain (h.isPlain_append hplain), String.toList_append]
  exact Text.likeChars_run_hexDigits h.digits _ _

theorem isLike_counted_catalogKey (h : IsDigest hash) :
    SnapshotStore.isLike "%:catalog" (SnapshotStore.catalogKey hash) = true :=
  (h.isLike_counted (Text.isPlain_of_all (by decide))).trans (by decide)

theorem isLike_counted_timeKey (h : IsDigest hash) :
    SnapshotStore.isLike "%:catalog" (SnapshotStore.timeKey hash) = false :=
  (h.isLike_counted (Text.isPlain_of_all (by decide))).trans (by decide)

/-- The pattern of a snapshot is never too long. -/
theorem pattern_size (h : IsDigest hash) : (hash ++ ":%").utf8ByteSize = 66 := by
  have hhash : hash.utf8ByteSize = 64 := by
    rw [← h.length, ← Text.utf8ByteSize_hexDigits h.digits, String.ofList_toList]
  rw [String.utf8ByteSize_append, hhash]
  rfl

end IsDigest

namespace SnapshotStore

theorem catalogKey_inj {a b : String} : catalogKey a = catalogKey b ↔ a = b := by
  constructor
  · intro h
    have hlist := congrArg String.toList h
    rw [catalogKey, catalogKey, String.toList_append, String.toList_append] at hlist
    exact String.toList_inj.1 (List.append_cancel_right hlist)
  · exact congrArg catalogKey

theorem timeKey_inj {a b : String} : timeKey a = timeKey b ↔ a = b := by
  constructor
  · intro h
    have hlist := congrArg String.toList h
    rw [timeKey, timeKey, String.toList_append, String.toList_append] at hlist
    exact String.toList_inj.1 (List.append_cancel_right hlist)
  · exact congrArg timeKey

theorem catalogKey_ne_timeKey (a b : String) : catalogKey a ≠ timeKey b := by
  intro h
  have hlast := congrArg (fun key => key.toList.getLast?) h
  simp [catalogKey, timeKey] at hlast

/-! ## What is kept -/

/-- The text of the cache that is kept under a hash. -/
def kept? (s : SnapshotStore) (hash : String) : Option String := s.entries.get? (catalogKey hash)

theorem kept?_save (s : SnapshotStore) (hash : String) (cache : Cache) (time : Nat) (other : String) :
    (s.save hash cache time).kept? other = if other = hash then some cache.encode else s.kept? other := by
  unfold kept? save
  rw [NameMap.get?_insert, if_neg (catalogKey_ne_timeKey other hash), NameMap.get?_insert]
  simp only [catalogKey_inj]

theorem kept?_clear (s : SnapshotStore) (other : String) : s.clear.kept? other = none := rfl

theorem eq_of_delete {s s' : SnapshotStore} {hash : String} {count : Nat} (h : s.delete hash = .ok (count, s')) :
    s' = { s with entries := s.entries.filter fun key _ => !isLike (hash ++ ":%") key } := by
  simp only [delete] at h
  split at h
  · cases h
  · cases h
    rfl

/-- A deleted snapshot is gone, and the others stay. -/
theorem kept?_delete {s s' : SnapshotStore} {hash : String} {count : Nat} (h : s.delete hash = .ok (count, s'))
    (hhash : IsDigest hash) {other : String} (hother : IsDigest other) :
    s'.kept? other = if other = hash then none else s.kept? other := by
  rw [eq_of_delete h]
  unfold kept?
  rw [NameMap.get?_filter, hhash.isLike_catalogKey hother]
  by_cases heq : other = hash
  · simp [heq]
  · have hne : hash ≠ other := fun h => heq h.symm
    cases s.entries.get? (catalogKey other) <;> simp [heq, hne]

/-- A kept cache is what a look-up finds. -/
theorem load_of_kept {s : SnapshotStore} {hash : String} {cache : Cache} (h : s.kept? hash = some cache.encode) :
    s.load hash = .ok (some cache) := by
  have hget : s.entries.get? (catalogKey hash) = some cache.encode := h
  unfold load read
  rw [hget]
  simp only [Cache.parse?_encode]

theorem load_of_not_kept {s : SnapshotStore} {hash : String} (h : s.kept? hash = none) : s.load hash = .ok none := by
  have hget : s.entries.get? (catalogKey hash) = none := h
  unfold load read
  rw [hget]

/-! ## Versions -/

/-- The store has the current version. -/
def IsCurrent (s : SnapshotStore) : Prop := ∃ v, s.version = some v ∧ Text.unsigned? v = some currentVersion

theorem isCurrent_opened (s : SnapshotStore) : s.opened.IsCurrent := by
  have hcurrent : Text.unsigned? (String.ofList (Text.decimalDigits currentVersion)) = some currentVersion :=
    Text.unsigned?_decimalDigits currentVersion
  unfold opened
  split
  next => exact ⟨_, rfl, hcurrent⟩
  next v hv =>
    split
    next h => exact ⟨v, hv, h⟩
    next => exact ⟨_, rfl, hcurrent⟩

theorem IsCurrent.opened_eq {s : SnapshotStore} (h : s.IsCurrent) : s.opened = s := by
  obtain ⟨v, hv, hcurrent⟩ := h
  unfold opened
  simp only [hv, hcurrent, if_true]

theorem IsCurrent.of_version {s s' : SnapshotStore} (h : s.IsCurrent) (hversion : s'.version = s.version) :
    s'.IsCurrent := by
  obtain ⟨v, hv, hcurrent⟩ := h
  exact ⟨v, hversion.trans hv, hcurrent⟩

theorem version_save (s : SnapshotStore) (hash : String) (cache : Cache) (time : Nat) :
    (s.save hash cache time).version = s.version := rfl

theorem version_delete {s s' : SnapshotStore} {hash : String} {count : Nat} (h : s.delete hash = .ok (count, s')) :
    s'.version = s.version := by
  rw [eq_of_delete h]

theorem version_clear (s : SnapshotStore) : s.clear.version = s.version := rfl

end SnapshotStore

end CatalogFinder
