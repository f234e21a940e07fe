import CatalogFinder.Proofs.Snapshot.Changes
import CatalogFinder.Proofs.Text.Pieces

/-!
# What a deletion removes

A snapshot is deleted by a pattern: its hash, a colon and any ending. The hash may be any text, and it is a pattern as
well, so the deletion reaches the keys of other snapshots too: `a_b` reaches `a-b` and `A_B`, and `a` reaches `a:b`.
What it does not reach it leaves alone.

* `Text.matches_literal_iff`, `Text.matches_ending_iff` : patterns without wildcards, and a colon with any ending;
* `SnapshotStore.Reaches` : a key is like the pattern that a hash is deleted by;
* `Reaches.own_catalogKey`, `Reaches.own_timeKey` : a hash reaches its own keys;
* `reaches_iff_of_name` : plain names reach the names that are equal to them but for the case of ASCII letters;
* `SnapshotStore.delete_reached` : a deletion removes what its hash reaches, and counts it.
-/

namespace CatalogFinder

namespace Text

/-! ## Literal patterns -/

/-- A text is a pattern that matches the text itself. -/
theorem matches_self (cs : List Char) : Matches .asciiFolded cs cs := by
  induction cs with
  | nil => exact .nil
  | cons c cs ih =>
    by_cases hc : c = '%'
    · rw [hc]
      exact .more rfl (.skip ih)
    · refine .one hc ?_ ih
      unfold LikeRule.covers
      split
      next => rfl
      next => exact beq_self_eq_true _

theorem eq_colon_of_toLower {c : Char} (h : ':'.toLower = c.toLower) : c = ':' := by
  have hcolon : ':'.toLower = ':' := by decide
  rw [hcolon] at h
  unfold Char.toLower at h
  split at h
  next hupper =>
    -- a capital letter is moved to a small one, never to a colon
    have hmoved : 58 = (c.val.toNat + 32) % 2 ^ 32 := congrArg (fun d => d.val.toNat) h
    have hfirst : 65 ≤ c.val.toNat := hupper.1
    have hlast : c.val.toNat ≤ 90 := hupper.2
    omega
  next => exact h.symm

/-- A colon with any ending. -/
theorem matches_ending_iff (cs : List Char) : Matches .asciiFolded [':', '%'] cs ↔ ∃ rest, cs = ':' :: rest := by
  constructor
  · intro h
    cases h with
    | @one _ _ c rest _ hcovers h =>
      have hcolon : ':'.toLower = c.toLower := by simpa [LikeRule.covers, LikeRule.asciiFolded] using hcovers
      rw [eq_colon_of_toLower hcolon]
      exact ⟨rest, rfl⟩
  · rintro ⟨rest, rfl⟩
    exact .one (by decide) (by decide) (.run (fun _ => rfl) rest)

/-- A pattern without wildcards matches the texts that are equal to it but for the case of ASCII letters. -/
theorem matches_literal_iff {ps cs : List Char} (h : ∀ p ∈ ps, IsLiteral p) :
    Matches .asciiFolded ps cs ↔ ps.map Char.toLower = cs.map Char.toLower := by
  induction ps generalizing cs with
  | nil =>
    constructor
    · intro h
      cases h
      rfl
    · intro h
      rw [List.map_eq_nil_iff.1 h.symm]
      exact .nil
  | cons p ps ih =>
    obtain ⟨hrun, hone⟩ := h p List.mem_cons_self
    have hcovers : ∀ c, LikeRule.asciiFolded.covers p c = true ↔ p.toLower = c.toLower := by
      intro c
      simp [LikeRule.covers, LikeRule.asciiFolded, hone]
    have ih : ∀ cs, Matches .asciiFolded ps cs ↔ ps.map Char.toLower = cs.map Char.toLower :=
      fun _ => ih fun q hq => h q (List.mem_cons_of_mem _ hq)
    constructor
    · intro hmatch
      cases hmatch with
      | skip => exact absurd rfl hrun
      | more => exact absurd rfl hrun
      | @one _ _ c cs _ hc hrest => rw [List.map_cons, List.map_cons, (hcovers c).1 hc, (ih cs).1 hrest]
    · intro heq
      cases cs with
      | nil => cases heq
      | cons c cs =>
        obtain ⟨hc, hrest⟩ := List.cons.inj heq
        exact .one hrun ((hcovers c).2 hc) ((ih cs).2 hrest)

end Text

namespace SnapshotStore

/-! ## Keys that a hash reaches -/

/-- The key is like the hash with a colon and any ending, where the hash is a pattern too. -/
def Reaches (hash key : String) : Prop :=
  Text.Matches .asciiFolded (Text.compared (hash ++ ":%")) (Text.compared key)

theorem isLike_iff_reaches (hash key : String) : isLike (hash ++ ":%") key = true ↔ Reaches hash key :=
  ⟨Text.matches_of_likeChars _ _ _, Text.likeChars_of_matches⟩

instance (hash key : String) : Decidable (Reaches hash key) := decidable_of_iff _ (isLike_iff_reaches hash key)

theorem isLike_eq_reaches (hash key : String) : isLike (hash ++ ":%") key = decide (Reaches hash key) := by
  rw [Bool.eq_iff_iff, decide_eq_true_iff]
  exact isLike_iff_reaches hash key

theorem compared_pattern (hash : String) : Text.compared (hash ++ ":%") =
    if '\x00' ∈ hash.toList then Text.compared hash else Text.compared hash ++ [':', '%'] := by
  have hpattern : Text.compared ":%" = [':', '%'] := by decide
  rw [Text.compared_append, hpattern]

namespace Reaches

theorem own (hash : String) {ending : String} (hending : Text.Matches .asciiFolded [':', '%'] (Text.compared ending)) :
    Reaches hash (hash ++ ending) := by
  unfold Reaches
  rw [compared_pattern, Text.compared_append]
  split
  next => exact Text.matches_self _
  next => exact (Text.matches_append_iff _ _ _ _).2 ⟨_, _, rfl, Text.matches_self _, hending⟩

theorem own_catalogKey (hash : String) : Reaches hash (catalogKey hash) :=
  own hash ((Text.matches_ending_iff _).2 ⟨"catalog".toList, by decide⟩)

theorem own_timeKey (hash : String) : Reaches hash (timeKey hash) :=
  own hash ((Text.matches_ending_iff _).2 ⟨"loaded_at".toList, by decide⟩)

end Reaches

/-- The name has no wildcard and no colon, and its characters are compared as they are. -/
structure IsName (name : String) : Prop where
  plain : Text.IsPlain name
  literal : ∀ c ∈ name.toList, Text.IsLiteral c
  colon : ':' ∉ name.toList

/-- Where there is one colon on either side, it is the same. -/
theorem front_of_colon {name ending front rest : List Char} (hname : ':' ∉ name) (hending : ':' ∉ ending)
    (h : name ++ ':' :: ending = front ++ ':' :: rest) : front = name := by
  rcases List.append_eq_append_iff.1 h with ⟨between, rfl, hbehind⟩ | ⟨between, rfl, hbehind⟩
  · cases between with
    | nil => exact List.append_nil _
    | cons c between =>
      obtain ⟨-, rfl⟩ := List.cons.inj hbehind
      exact absurd (List.mem_append_right _ List.mem_cons_self) hending
  · cases between with
    | nil => exact (List.append_nil _).symm
    | cons c between =>
      obtain ⟨rfl, -⟩ := List.cons.inj hbehind
      exact absurd (List.mem_append_right _ List.mem_cons_self) hname

/-- Of names, a hash reaches those that are equal to it but for the case of ASCII letters. -/
theorem reaches_iff_of_name {hash other ending : String} (hhash : IsName hash) (hother : IsName other)
    (hplain : Text.IsPlain ending) (hcolon : ':' ∉ ending.toList) :
    Reaches hash (other ++ ":" ++ ending) ↔ hash.toList.map Char.toLower = other.toList.map Char.toLower := by
  have hzero : '\x00' ∉ hash.toList := fun h => (hhash.plain _ h).1 rfl
  have hkey : Text.IsPlain (other ++ ":" ++ ending) := by
    have hseparator : Text.IsPlain ":" := Text.isPlain_of_all (by decide)
    intro c hc
    rw [String.toList_append, String.toList_append, List.mem_append, List.mem_append] at hc
    rcases hc with (hc | hc) | hc
    · exact hother.plain c hc
    · exact hseparator c hc
    · exact hplain c hc
  have hchars : (other ++ ":" ++ ending).toList = other.toList ++ ':' :: ending.toList := by
    simp [String.toList_append]
  unfold Reaches
  rw [compared_pattern, if_neg hzero, Text.compared_eq_of_plain hhash.plain, Text.compared_eq_of_plain hkey,
    Text.matches_append_iff, hchars, ← Text.matches_literal_iff hhash.literal]
  constructor
  · rintro ⟨front, back, hsplit, hfront, hback⟩
    obtain ⟨rest, rfl⟩ := (Text.matches_ending_iff back).1 hback
    rwa [front_of_colon hother.colon hcolon hsplit] at hfront
  · intro h
    exact ⟨_, _, rfl, h, (Text.matches_ending_iff _).2 ⟨_, rfl⟩⟩

/-! ## Deletions -/

/-- The keys under which the store has something for a hash. -/
def keysOf (s : SnapshotStore) (hash : String) : List String :=
  [catalogKey hash, timeKey hash].filter s.entries.contains

/-- A deletion that is not refused keeps what its hash does not reach, and counts what it reaches. -/
theorem delete_of_short (s : SnapshotStore) (hash : String) (hshort : (hash ++ ":%").utf8ByteSize ≤ maxPatternSize) :
    s.delete hash = .ok ((s.entries.names.filter (Reaches hash ·)).length,
      { s with entries := s.entries.filter fun key _ => !decide (Reaches hash key) }) := by
  have hallowed : (maxPatternSize < (hash ++ ":%").utf8ByteSize && s.entries.size ≠ 0) = false := by
    rw [decide_eq_false (Nat.not_lt.2 hshort), Bool.false_and]
  have hremoved := s.entries.size_filter_not (Reaches hash ·)
  unfold delete
  simp only [hallowed, isLike_eq_reaches, Bool.false_eq_true, if_false]
  rw [Nat.sub_eq_of_eq_add' hremoved]

theorem read_of_delete {s later : SnapshotStore} {hash : String} {removed : Nat}
    (h : s.delete hash = .ok (removed, later)) {α : Type} (key : String) (reader : Json → Option α) :
    later.read key reader = if Reaches hash key then .ok none else s.read key reader := by
  rw [eq_of_delete h]
  unfold read
  rw [NameMap.get?_filter, isLike_eq_reaches]
  by_cases hreach : Reaches hash key
  · rw [if_pos hreach, decide_eq_true hreach]
    cases s.entries.get? key <;> rfl
  · rw [if_neg hreach, decide_eq_false hreach]
    cases s.entries.get? key <;> rfl

/-- Where a hash reaches no other snapshot of a tidy store, it reaches its own keys. -/
theorem IsTidy.reached_perm {s : SnapshotStore} (h : s.IsTidy) {hash : String}
    (hothers : ∀ other, other ≠ hash → ∀ key ∈ s.keysOf other, ¬ Reaches hash key) :
    (s.entries.names.filter (Reaches hash ·)).Perm (s.keysOf hash) := by
  have hdistinct : [catalogKey hash, timeKey hash].Nodup := by simp [catalogKey_ne_timeKey]
  refine (List.perm_ext_iff_of_nodup (s.entries.nodup_names.filter _) (hdistinct.filter _)).2 fun key => ?_
  rw [List.mem_filter, NameMap.mem_names_iff, decide_eq_true_iff, List.mem_filter]
  constructor
  · rintro ⟨hkey, hreach⟩
    refine ⟨?_, hkey⟩
    obtain ⟨text, htext⟩ := Option.isSome_iff_exists.1 hkey
    -- the key is of some hash, and this can be no other one
    have hown : ∀ other, key ∈ [catalogKey other, timeKey other] → other = hash := by
      intro other hmem
      by_contra hne
      exact hothers other hne key (List.mem_filter.2 ⟨hmem, hkey⟩) hreach
    rcases h key text htext with ⟨other, -, rfl, -⟩ | ⟨other, -, rfl, -⟩
    · rw [hown other (by simp)]
      simp
    · rw [hown other (by simp)]
      simp
  · rintro ⟨hmem, hkey⟩
    refine ⟨hkey, ?_⟩
    rcases List.mem_pair.1 hmem with rfl | rfl
    · exact .own_catalogKey hash
    · exact .own_timeKey hash

/-- **A deletion removes what its hash reaches**, its own snapshot among it, and leaves the rest as it was. It counts
what it reaches, and this is its own snapshot if it reaches no other. -/
theorem delete_reached (changes : List StoreChange) (hash : String)
    (hshort : (hash ++ ":%").utf8ByteSize ≤ maxPatternSize) :
    ∃ removed later, (after changes).delete hash = .ok (removed, later) ∧
      later.load hash = .ok none ∧ later.loadedAt hash = .ok none ∧
      (∀ other, later.load other = if Reaches hash (catalogKey other) then .ok none else (after changes).load other) ∧
      (∀ other, later.loadedAt other =
        if Reaches hash (timeKey other) then .ok none else (after changes).loadedAt other) ∧
      removed = ((after changes).entries.names.filter (Reaches hash ·)).length ∧
      ((∀ other, other ≠ hash → ∀ key ∈ (after changes).keysOf other, ¬ Reaches hash key) →
        removed = ((after changes).keysOf hash).length) := by
  have hdelete := (after changes).delete_of_short hash hshort
  have hload := fun other => read_of_delete hdelete (catalogKey other) (Cache.ofJson? .plain)
  have htime := fun other => read_of_delete hdelete (timeKey other) Json.uint64?
  refine ⟨_, _, hdelete, ?_, ?_, hload, htime, rfl, fun hothers => ?_⟩
  · exact (hload hash).trans (if_pos (.own_catalogKey hash))
  · exact (htime hash).trans (if_pos (.own_timeKey hash))
  · exact ((isTidy_after changes).reached_perm hothers).length_eq

/-- Of the snapshots of `abc` and `def` a deletion of `abc` removes the first, which is two entries. -/
theorem delete_reached_abc :
    ("abc" ++ ":%").utf8ByteSize ≤ maxPatternSize ∧
      ∃ later, (after [.save "abc" {} 1, .save "def" {} 2]).delete "abc" = .ok (2, later) ∧
        later.load "abc" = .ok none ∧ later.load "def" = .ok (some {}) := by
  have hshort : ("abc" ++ ":%").utf8ByteSize ≤ maxPatternSize := by decide
  obtain ⟨removed, later, hdelete, hown, -, hload, -, hremoved, -⟩ :=
    delete_reached [.save "abc" {} 1, .save "def" {} 2] "abc" hshort
  have hcount : removed = 2 := hremoved.trans (by decide)
  have hother : later.load "def" = .ok (some {}) := by
    rw [hload, if_neg (by decide)]
    exact load_save (after [.save "abc" {} 1]) "def" {} 2
  exact ⟨hshort, later, hcount ▸ hdelete, hown, hother⟩

/-- A deletion of `sales_eu` removes the snapshot of `sales-eu` as well. -/
theorem delete_underscore :
    ∃ later, (after [.save "sales_eu" {} 1, .save "sales-eu" {} 2]).delete "sales_eu" = .ok (4, later) ∧
      (after [.save "sales_eu" {} 1, .save "sales-eu" {} 2]).load "sales-eu" = .ok (some {}) ∧
      later.load "sales-eu" = .ok none := by
  have hdelete := (after [.save "sales_eu" {} 1, .save "sales-eu" {} 2]).delete_of_short "sales_eu" (by decide)
  have hcount : ((after [.save "sales_eu" {} 1, .save "sales-eu" {} 2]).entries.names.filter
      (Reaches "sales_eu" ·)).length = 4 := by decide
  rw [hcount] at hdelete
  refine ⟨_, hdelete, load_save (after [.save "sales_eu" {} 1]) "sales-eu" {} 2, ?_⟩
  exact (read_of_delete hdelete (catalogKey "sales-eu") _).trans (if_pos (by decide))

end SnapshotStore

end CatalogFinder
