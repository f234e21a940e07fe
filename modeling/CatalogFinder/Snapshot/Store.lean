import CatalogFinder.Catalog.Json
import CatalogFinder.Session.Error
import CatalogFinder.Text.Compared
import CatalogFinder.Text.Digits
import CatalogFinder.Text.Like

/-!
# The snapshot store

Loaded caches are kept as texts under keys. A snapshot has a hash, which tells what it was made from, and two keys: one
for the cache and one for the time it was saved. A store carries the version of its format; a store of another version
is emptied when it is opened.

* `SnapshotStore.load`, `save`, `delete`, `clear`, `stats` : what can be done with snapshots;
* `SnapshotStore.opened` : the store as it is when it has been opened.
-/

namespace CatalogFinder

/-- Why a snapshot store does not answer. -/
inductive StoreError where
  | database (cause : DatabaseError)
  | malformed (key text : String)
  | noHomeDirectory
  | io (reason : String)
  deriving DecidableEq, Repr

/-- The text of an error. What is wrong with a kept text that cannot be read is told by the one who has tried. -/
def StoreError.message (wrongWith : (key text : String) → String) : StoreError → String
  | database cause => s!"SQLite error: {cause.message}"
  | malformed key text => s!"JSON serialization error: {wrongWith key text}"
  | noHomeDirectory => "Failed to determine home directory"
  | io reason => s!"IO error: {reason}"

/-- How many snapshots a store has, and how many characters their texts have. -/
structure StoreStats where
  count : Nat
  size : Nat
  deriving DecidableEq, Repr

/-- Texts under keys, and the version of their format. -/
structure SnapshotStore where
  entries : NameMap String := ∅
  version : Option String := none
  deriving DecidableEq

namespace SnapshotStore

def currentVersion : Nat := 1

/-- The key of a snapshot's cache. -/
def catalogKey (hash : String) : String := hash ++ ":catalog"

/-- The key of the time a snapshot was saved at. -/
def timeKey (hash : String) : String := hash ++ ":loaded_at"

def clear (s : SnapshotStore) : SnapshotStore := { s with entries := ∅ }

/-- The store as it is when it has been opened: of the current version, and without snapshots if it was of another. -/
def opened (s : SnapshotStore) : SnapshotStore :=
  let current := String.ofList (Text.decimalDigits currentVersion)
  match s.version with
  | none => { s with version := some current }
  | some v => if Text.unsigned? v = some currentVersion then s else { s.clear with version := some current }

def empty : SnapshotStore := ({} : SnapshotStore).opened

/-- Keeps a cache and the time in seconds under a hash, instead of what was there. -/
def save (s : SnapshotStore) (hash : String) (cache : Cache) (time : Nat) : SnapshotStore :=
  { s with
    entries := (s.entries.insert (catalogKey hash) cache.encode).insert (timeKey hash)
      (Json.integer time).compact }

/-- What a reader makes of the text under a key, if there is one. -/
def read {α : Type} (s : SnapshotStore) (key : String) (reader : Json → Option α) : Except StoreError (Option α) :=
  match s.entries.get? key with
  | none => .ok none
  | some text =>
    match (Json.parse? text).bind reader with
    | some a => .ok (some a)
    | none => .error (.malformed key text)

def load (s : SnapshotStore) (hash : String) : Except StoreError (Option Cache) :=
  s.read (catalogKey hash) (Cache.ofJson? .plain)

/-- The time at which the snapshot of a hash was saved. -/
def loadedAt (s : SnapshotStore) (hash : String) : Except StoreError (Option UInt64) :=
  s.read (timeKey hash) Json.uint64?

/-- The longest pattern, in bytes, that keys are compared with. -/
def maxPatternSize : Nat := 50000

/-- The key is like a pattern. The case of ASCII letters does not matter. -/
def isLike (pattern key : String) : Bool := Text.likeChars .asciiFolded (Text.compared pattern) (Text.compared key)

/-- Removes the texts whose keys are like the hash with a colon and any ending, and counts them. -/
def delete (s : SnapshotStore) (hash : String) : Except StoreError (Nat × SnapshotStore) :=
  -- in the hash `%` and `_` are wildcards too
  let pattern := hash ++ ":%"
  if maxPatternSize < pattern.utf8ByteSize && s.entries.size ≠ 0 then .error (.database .patternTooLong)
  else
    let kept := s.entries.filter fun key _ => !isLike pattern key
    .ok (s.entries.size - kept.size, { s with entries := kept })

/-- How long a text counts: its characters up to the first zero character. -/
def lengthOf (text : String) : Nat := (text.toList.takeWhile (· != '\x00')).length

/-- How many caches there are, and how long all texts are together. -/
def stats (s : SnapshotStore) : StoreStats where
  count := (s.entries.names.filter (isLike "%:catalog" ·)).length
  size := s.entries.values.foldr (fun text size => lengthOf text + size) 0

end SnapshotStore

end CatalogFinder
