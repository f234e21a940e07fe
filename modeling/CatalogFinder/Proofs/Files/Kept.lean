import CatalogFinder.Files.Hosting
import CatalogFinder.Proofs.Files.Actions
import CatalogFinder.Proofs.Files.Places
import CatalogFinder.Proofs.Snapshot.Store

/-!
# What files keep of a store

A snapshot store is a database file. Making directories, opening databases and changing tables keep what is in the
store, unless the store lies beside one of these databases, where a broken-off change of the database would.

* `Files.storeAt` : the store in the file of a place;
* `Files.Keeps` : neither the working directory nor the store has changed;
* `Files.openCatalog_ends` : opening a catalog opens its databases, and keeps a store that does not lie beside them;
* `Files.openStore_ends`, `Files.putStore_ends` : what opening the store gives, and what is in it after a change;
* `Files.openCatalog_opens`, `Files.openStore_opens` : which databases are opened, wherever the store is.
-/

namespace CatalogFinder

open FileAction (Ends)

namespace Files

/-- The database in the file of a place, which is empty if there is none. -/
def databaseAt (files : Files) (p : Place) : Database := ((files.node? p).bind Node.database?).getD {}

/-- The store in the file of a place, as it is when it has been opened. -/
def storeAt (files : Files) (p : Place) : SnapshotStore := ((files.databaseAt p).snapshots.getD {}).opened

theorem contents_of_place {files : Files} {h : DatabaseHandle} {p : Place} (hplace : h.place? = some p) :
    files.contents h = files.databaseAt p := by
  unfold contents databaseAt
  rw [hplace, Option.bind_some]

theorem isCurrent_storeAt (files : Files) (p : Place) : (files.storeAt p).IsCurrent :=
  SnapshotStore.isCurrent_opened _

/-- Neither the working directory nor the store at a place has changed. -/
structure Keeps (p : Place) (files after : Files) : Prop where
  workingDirectory : after.workingDirectory = files.workingDirectory
  store : after.storeAt p = files.storeAt p

variable {p q : Place} {files after : Files}

theorem Keeps.refl (p : Place) (files : Files) : Keeps p files files := ⟨rfl, rfl⟩

theorem Keeps.trans {last : Files} (h : Keeps p files after) (h' : Keeps p after last) : Keeps p files last :=
  ⟨h'.workingDirectory.trans h.workingDirectory, h'.store.trans h.store⟩

/-- An action that keeps the store, after what has kept it before. -/
theorem Keeps.ends {ε α : Type} (hkept : Keeps p files after) {a : FileAction ε α} {ok ok' : α → Files → Prop}
    (h : a.Ends after ok (Keeps p after)) (hok : ∀ result last, ok result last → ok' result last) :
    a.Ends after ok' (Keeps p files) :=
  h.mono hok fun _ hfailed => hkept.trans hfailed

theorem Keeps.next {ε α β : Type} (hkept : Keeps p files after) {a : FileAction ε α} {ok : α → Files → Prop}
    (h : a.Ends after ok (Keeps p after)) {f : α → FileAction ε β} {ok' : β → Files → Prop}
    (hnext : ∀ result last, ok result last → (f result).Ends last ok' (Keeps p files)) :
    (a >>= f).Ends after ok' (Keeps p files) := Ends.bind (hkept.ends h hnext)

/-- A change of files that leaves the database at the place as it is. -/
theorem Keeps.of_databaseAt (hdirectory : after.workingDirectory = files.workingDirectory)
    (h : after.databaseAt p = files.databaseAt p) : Keeps p files after :=
  ⟨hdirectory, by rw [storeAt, h, storeAt]⟩

theorem Keeps.remove (h : p ≠ [] → ¬ q.Covers p) : Keeps p files (files.remove q) := by
  refine Keeps.of_databaseAt rfl ?_
  rw [databaseAt, databaseAt, node?_remove_of_not_covers files h]

/-- Something new with an empty database, or none, takes away no store. -/
theorem Keeps.put_new (hnew : files.node? q = none) {node : Node} (hempty : node.database?.getD {} = {}) :
    Keeps p files (files.put q node) := by
  refine Keeps.of_databaseAt rfl ?_
  by_cases hp : p = []
  · subst hp
    rfl
  · unfold databaseAt
    rw [node?_put files q node hp]
    by_cases hkey : p.key = q.key
    · have hq : q ≠ [] := by
        rintro rfl
        cases hnew
      have hnone : files.node? p = none := by
        rw [node?_of_ne_nil files hp, hkey, ← node?_of_ne_nil files hq, hnew]
      rw [if_pos hkey, hnone]
      exact hempty
    · rw [if_neg hkey]

theorem storeAt_of_key (files : Files) (hp : p ≠ []) (hq : q ≠ []) (hkey : p.key = q.key) :
    files.storeAt p = files.storeAt q := by
  unfold storeAt databaseAt
  rw [node?_of_ne_nil files hp, node?_of_ne_nil files hq, hkey]

/-- A database takes away no store if it has the same one, should it be put there. -/
theorem Keeps.put_database {d : Database}
    (hstore : p ≠ [] → p.key = q.key → (d.snapshots.getD {}).opened = files.storeAt p) :
    Keeps p files (files.put q (.database d)) := by
  refine ⟨rfl, ?_⟩
  by_cases hp : p = []
  · subst hp
    rfl
  · by_cases hkey : p.key = q.key
    · rw [← hstore hp hkey]
      unfold storeAt databaseAt
      rw [node?_put files q _ hp, if_pos hkey]
      rfl
    · unfold storeAt databaseAt
      rw [node?_put files q _ hp, if_neg hkey]

/-- A written database is in its file. -/
theorem databaseAt_put_self (hq : q ≠ []) (files : Files) (d : Database) :
    (files.put q (.database d)).databaseAt q = d := by
  unfold databaseAt
  rw [node?_put files q _ hq, if_pos rfl]
  rfl

/-! ## Directories -/

/-- A directory is made where nothing is. -/
theorem put_of_makeDirectory {path : Path} (h : files.makeDirectory path = .ok after) :
    ∃ q, files.node? q = none ∧ after = files.put q .directory := by
  unfold makeDirectory at h
  simp only [bind, Except.bind] at h
  split at h
  · cases h
  split at h
  · cases h
  split at h
  · cases h
  split at h
  · cases h
  · split at h
    · cases h
    split at h
    · cases h
    split at h
    · cases h
    -- the only branch that does not fail
    next houter _ _ hnew =>
      cases h
      exact ⟨_, by simpa using hnew, rfl⟩
  · cases h

theorem ensureDirectory_keeps (path : Path) (files : Files) :
    (ensureDirectory path).Ends files (fun _ => Keeps p files) (Keeps p files) := by
  unfold ensureDirectory
  refine Ends.bind (Ends.get ?_)
  split
  next made hmade =>
    obtain ⟨q, hnew, rfl⟩ := put_of_makeDirectory hmade
    exact Ends.set (Keeps.put_new hnew rfl)
  next =>
    split
    · exact Ends.pure (Keeps.refl p files)
    · exact Ends.throw (Keeps.refl p files)

theorem makeLineage_keeps (paths : List Path) (files : Files) :
    (makeLineage paths).Ends files (fun _ => Keeps p files) (Keeps p files) := by
  induction paths with
  | nil => exact Ends.throw (Keeps.refl p files)
  | cons path above ih =>
    unfold makeLineage
    split
    · exact Ends.pure (Keeps.refl p files)
    · refine Ends.bind (Ends.get ?_)
      split
      · refine ih.next fun _ after hkept => ?_
        exact hkept.ends (ensureDirectory_keeps path after) fun _ _ h => hkept.trans h
      · exact ensureDirectory_keeps path files

theorem makeDirectories_keeps (path : Path) (files : Files) :
    (makeDirectories path).Ends files (fun _ => Keeps p files) (Keeps p files) :=
  makeLineage_keeps path.lineage files

/-! ## Databases -/

theorem settle_keeps (h : DatabaseHandle) (hside : ¬ p.IsSideOf q) (files : Files) :
    (settle h q).Ends files (fun _ => Keeps p files) (Keeps p files) := by
  have hjournal : p ≠ [] → ¬ (q.beside DatabaseName.journalEnding).Covers p := fun hp h => hside ⟨hp, .inl h⟩
  have hlog : p ≠ [] → ¬ (q.beside DatabaseName.logEnding).Covers p := fun hp h => hside ⟨hp, .inr h⟩
  unfold settle
  extract_lets journal log
  refine Ends.bind (Ends.get ?_)
  extract_lets fresh rest
  -- `rest` clears the log away; before it the journal may have gone
  have hrest : ∀ after, Keeps p files after → (rest ⟨⟩).Ends after (fun _ => Keeps p files) (Keeps p files) := by
    intro after hkept
    simp only [rest]
    split
    · exact Ends.throw hkept
    · split
      · exact Ends.modify (hkept.trans (Keeps.remove hlog))
      · exact Ends.pure hkept
    · exact Ends.pure hkept
  split
  · split
    · exact Ends.bind (Ends.throw (Keeps.refl p files))
    · exact hrest files (Keeps.refl p files)
  · split
    · split
      · exact Ends.bind (Ends.modify (hrest _ (Keeps.remove hjournal)))
      · split
        · exact Ends.bind (Ends.throw (Keeps.refl p files))
        · exact hrest files (Keeps.refl p files)
    · exact hrest files (Keeps.refl p files)
  · exact hrest files (Keeps.refl p files)

theorem openFile_keeps (d : DatabaseName) (hside : ¬ p.IsSideOf q) (files : Files) :
    (openFile d q).Ends files (fun _ => Keeps p files) (Keeps p files) := by
  unfold openFile
  refine Ends.bind (Ends.get ?_)
  extract_lets settled opened
  have hsettled : ∀ after, Keeps p files after → (settled ⟨⟩).Ends after (fun _ => Keeps p files) (Keeps p files) := by
    intro after hkept
    simp only [settled]
    split
    · exact Ends.pure hkept
    · exact hkept.ends (settle_keeps _ hside after) fun _ _ h => hkept.trans h
  have hopened : (opened ⟨⟩).Ends files (fun _ => Keeps p files) (Keeps p files) := by
    simp only [opened]
    split
    · exact Ends.bind (Ends.throw (Keeps.refl p files))
    · split
      · exact Ends.bind (Ends.throw (Keeps.refl p files))
      · exact hsettled files (Keeps.refl p files)
    next hmissing =>
      split
      · exact Ends.bind (Ends.set (hsettled _ (Keeps.put_new hmissing rfl)))
      · exact Ends.bind (Ends.throw (Keeps.refl p files))
  split
  · exact Ends.bind (Ends.throw (Keeps.refl p files))
  · exact hopened

end Files

/-- The handle is that of an open database: its file is at the place that the name spells, if it has a file. -/
structure DatabaseHandle.IsOf (h : DatabaseHandle) (workingDirectory : Place) (name : String) : Prop where
  named : DatabaseName.ofString? name = some h.name
  place : h.place? = if h.name.isFleeting then none else some (h.name.file.placeFrom workingDirectory)
  notRoot : h.place? ≠ some []

/-- Two open databases of one name are the same, if the working directory was the same or does not matter. -/
theorem DatabaseHandle.IsOf.eq {h h' : DatabaseHandle} {wd wd' : Place} {name : String} (hopen : h.IsOf wd name)
    (hopen' : h'.IsOf wd' name) (hwd : wd' = wd ∨ h.name.file.absolute = true) : h' = h := by
  have hname : h'.name = h.name := Option.some.inj (hopen'.named.symm.trans hopen.named)
  have hplace : h'.place? = h.place? := by
    rw [hopen'.place, hopen.place, hname, Path.placeFrom_congr hwd]
  cases h
  cases h'
  cases hname
  cases hplace
  rfl

/-- The place is not beside the file of the database of a name. -/
def Place.Spared (p workingDirectory : Place) (name : String) : Prop :=
  ∀ d, DatabaseName.ofString? name = some d → d.isFleeting = false → ¬ p.IsSideOf (d.file.placeFrom workingDirectory)

theorem Place.Spared.not_isSideOf {p q workingDirectory : Place} {name : String} (h : p.Spared workingDirectory name)
    {handle : DatabaseHandle} (hopen : handle.IsOf workingDirectory name) (hplace : handle.place? = some q) :
    ¬ p.IsSideOf q := by
  have hfile := hopen.place
  rw [hplace] at hfile
  split at hfile
  · cases hfile
  next hfleeting =>
    cases hfile
    exact h handle.name hopen.named (by simpa using hfleeting)

namespace Files

variable {p q : Place} {files after : Files}

theorem connect_ends {name : String} (hspared : p.Spared files.workingDirectory name) :
    (connect name).Ends files (fun h after => Keeps p files after ∧ h.IsOf files.workingDirectory name)
      (Keeps p files) := by
  unfold connect
  extract_lets rest
  have hrest : (rest ⟨⟩).Ends files (fun h after => Keeps p files after ∧ h.IsOf files.workingDirectory name)
      (Keeps p files) := by
    simp only [rest]
    split
    · exact Ends.throw (Keeps.refl p files)
    next d hd =>
      split
      next hfleeting =>
        exact Ends.pure ⟨Keeps.refl p files, hd, by rw [if_pos hfleeting], by simp⟩
      next hfleeting =>
        refine Ends.bind (Ends.get (Ends.bind (Ends.of ?_ (Keeps.refl p files))))
        intro place hplace
        obtain ⟨hspelled, hroot⟩ := placeFrom_of_locate hplace
        have hside : ¬ p.IsSideOf place := by
          rw [hspelled]
          exact hspared d hd (by simpa using hfleeting)
        refine (openFile_keeps d hside files).next fun _ after hkept => ?_
        refine Ends.pure ⟨hkept, hd, ?_, ?_⟩
        · rw [if_neg hfleeting, hspelled]
        · intro hnil
          exact hroot (Option.some.inj hnil)
  split
  · exact Ends.bind (Ends.throw (Keeps.refl p files))
  · exact hrest

/-- The handle's file, if it has one, is not the root, and the place is not beside it. -/
def Apart (p : Place) (h : DatabaseHandle) : Prop := ∀ q, h.place? = some q → q ≠ [] ∧ ¬ p.IsSideOf q

theorem apart_of_isOf {workingDirectory : Place} {name : String} (hspared : p.Spared workingDirectory name)
    {h : DatabaseHandle} (hopen : h.IsOf workingDirectory name) : Apart p h := by
  intro q hplace
  refine ⟨?_, hspared.not_isSideOf hopen hplace⟩
  rintro rfl
  exact hopen.notRoot hplace

/-- A database that is written is put into its file when what lay beside it has been cleared away. -/
theorem write_ends {h : DatabaseHandle} (hapart : Apart p h) (d : Database) (files : Files) :
    (h.write d).Ends files
      (fun _ after => (h.place? = none ∧ after = files) ∨
        ∃ q cleared, h.place? = some q ∧ Keeps p files cleared ∧ after = cleared.put q (.database d))
      (Keeps p files) := by
  unfold DatabaseHandle.write
  extract_lets rest
  have hrest : (rest ⟨⟩).Ends files
      (fun _ after => (h.place? = none ∧ after = files) ∨
        ∃ q cleared, h.place? = some q ∧ Keeps p files cleared ∧ after = cleared.put q (.database d))
      (Keeps p files) := by
    simp only [rest]
    split
    next hplace => exact Ends.pure (.inl ⟨hplace, rfl⟩)
    next q hplace =>
      obtain ⟨-, hside⟩ := hapart q hplace
      refine (settle_keeps h hside files).next fun _ settled hkept => ?_
      refine Ends.bind (Ends.get ?_)
      split
      · exact Ends.bind (Ends.throw hkept)
      -- the journal of the change itself is gone when the change is done
      · exact Ends.modify (.inr ⟨q, _, hplace, hkept.trans (Keeps.remove fun hp h => hside ⟨hp, .inl h⟩), rfl⟩)
  split
  · exact Ends.bind (Ends.throw (Keeps.refl p files))
  · exact hrest

/-- A change of tables keeps every store, also one in the same file. -/
theorem update_keeps {h : DatabaseHandle} (hapart : Apart p h) {change : Database → Database}
    (hchange : ∀ d, (change d).snapshots = d.snapshots) (files : Files) :
    (h.update change).Ends files (fun _ => Keeps p files) (Keeps p files) := by
  unfold DatabaseHandle.update
  refine Ends.bind (Ends.get ?_)
  extract_lets d
  split
  · refine (write_ends hapart (change d) files).mono (fun _ after hwritten => ?_) (fun _ hkept => hkept)
    rcases hwritten with ⟨-, rfl⟩ | ⟨q, cleared, hplace, hkept, rfl⟩
    · exact Keeps.refl p after
    · refine hkept.trans (Keeps.put_database fun hp hkey => ?_)
      obtain ⟨hq, -⟩ := hapart q hplace
      have hd : d = files.databaseAt q := contents_of_place hplace
      rw [hchange, hd, hkept.store, storeAt_of_key files hp hq hkey, storeAt]
  · exact Ends.pure (Keeps.refl p files)

/-! ## Catalogs -/

/-- The place is beside neither file of the catalog in a directory. -/
def SparedByCatalog (p workingDirectory : Place) (directory : String) : Prop :=
  p.Spared workingDirectory (CatalogFiles.syscatName directory) ∧
    p.Spared workingDirectory (CatalogFiles.sysibmName directory)

end Files

/-- The open databases are those of the catalog in a directory. -/
structure CatalogFiles.IsOf (c : CatalogFiles) (workingDirectory : Place) (directory : String) : Prop where
  syscat : c.syscat.IsOf workingDirectory (CatalogFiles.syscatName directory)
  sysibm : c.sysibm.IsOf workingDirectory (CatalogFiles.sysibmName directory)

/-- The databases of a catalog are the same wherever its directory is, if this is the same directory. -/
theorem CatalogFiles.IsOf.eq {c c' : CatalogFiles} {wd wd' : Place} {directory : String} (h : c.IsOf wd directory)
    (h' : c'.IsOf wd' directory) (hwd : wd' = wd ∨ (Path.ofString directory).absolute = true) : c' = c := by
  have hsyscat : c'.syscat = c.syscat :=
    h.syscat.eq h'.syscat (hwd.imp_right fun hroot => DatabaseName.absolute_file_joined hroot h.syscat.named)
  have hsysibm : c'.sysibm = c.sysibm :=
    h.sysibm.eq h'.sysibm (hwd.imp_right fun hroot => DatabaseName.absolute_file_joined hroot h.sysibm.named)
  cases c
  cases c'
  cases hsyscat
  cases hsysibm
  rfl

namespace Files

variable {p : Place} {files : Files}

theorem connectCatalog_ends {directory : String} (hspared : SparedByCatalog p files.workingDirectory directory) :
    (connectCatalog directory).Ends files
      (fun catalog after => Keeps p files after ∧ catalog.IsOf files.workingDirectory directory) (Keeps p files) := by
  unfold connectCatalog
  refine Ends.next (Ends.adapt (makeDirectories_keeps (.ofString directory) files)) fun _ made hmade => ?_
  rw [← hmade.workingDirectory] at hspared ⊢
  apply Ends.adapt
  refine hmade.next (connect_ends hspared.1) fun syscat opened hsyscat => ?_
  have hopened := hmade.trans hsyscat.1
  have hspared' := hspared.2
  rw [← hsyscat.1.workingDirectory] at hspared'
  refine hopened.next (connect_ends hspared') fun sysibm after hsysibm => ?_
  split
  · exact Ends.bind (Ends.throw (hopened.trans hsysibm.1))
  · exact Ends.pure ⟨hopened.trans hsysibm.1, hsyscat.2, hsyscat.1.workingDirectory ▸ hsysibm.2⟩

/-- Opening a catalog, and making what is missing of it, keeps a store that is not beside its files. -/
theorem openCatalog_ends {directory : String} (hspared : SparedByCatalog p files.workingDirectory directory) :
    (openCatalog directory).Ends files
      (fun opened after => Keeps p files after ∧ opened.1.IsOf files.workingDirectory directory) (Keeps p files) := by
  unfold openCatalog
  refine (connectCatalog_ends hspared).next fun catalog opened hcatalog => ?_
  obtain ⟨hopened, hof⟩ := hcatalog
  have hsyscat : Apart p catalog.syscat := apart_of_isOf hspared.1 hof.syscat
  have hsysibm : Apart p catalog.sysibm := apart_of_isOf hspared.2 hof.sysibm
  refine Ends.bind (Ends.get ?_)
  refine Ends.bind (Ends.adapt ?_)
  unfold CatalogFiles.put
  refine hopened.next (update_keeps hsyscat (by intro d; rfl) opened) fun _ after hafter => ?_
  have hkept := hopened.trans hafter
  exact hkept.ends (update_keeps hsysibm (by intro d; rfl) after) fun _ last hlast =>
    Ends.pure ⟨hkept.trans hlast, hof⟩

/-- Nothing lies beside a database that would be the root. -/
theorem sparedByCatalog_nil (workingDirectory : Place) (directory : String) :
    SparedByCatalog [] workingDirectory directory :=
  ⟨fun _ _ _ hside => hside.1 rfl, fun _ _ _ hside => hside.1 rfl⟩

/-- The databases that are opened are those of the catalog in the directory. The working directory stays. -/
theorem openCatalog_opens (directory : String) (files : Files) :
    (openCatalog directory).Ends files
      (fun opened after => after.workingDirectory = files.workingDirectory ∧
        opened.1.IsOf files.workingDirectory directory)
      (fun after => after.workingDirectory = files.workingDirectory) :=
  (openCatalog_ends (sparedByCatalog_nil files.workingDirectory directory)).mono
    (fun _ _ h => ⟨h.1.workingDirectory, h.2⟩) fun _ hkept => hkept.workingDirectory

/-! ## Stores -/

/-- The handle is that of the database at a place. -/
def IsAt (p : Place) (h : DatabaseHandle) : Prop := h.place? = some p ∧ p ≠ []

theorem IsAt.apart {h : DatabaseHandle} (hat : IsAt p h) : Apart p h := by
  intro q hplace
  rw [hat.1] at hplace
  cases hplace
  exact ⟨hat.2, Place.not_isSideOf_self p⟩

/-- A store that is kept is the store at the place of its file. Where it cannot be kept, the former one stays. -/
theorem putStore_ends {h : DatabaseHandle} (hat : IsAt p h) {store : SnapshotStore} (hstore : store.IsCurrent)
    (files : Files) :
    (putStore h store).Ends files
      (fun _ after => after.workingDirectory = files.workingDirectory ∧ after.storeAt p = store) (Keeps p files) := by
  unfold putStore
  refine Ends.bind (Ends.get ?_)
  apply Ends.adapt
  refine (write_ends hat.apart _ files).mono (fun _ after hwritten => ?_) (fun _ hkept => hkept)
  rcases hwritten with ⟨hplace, -⟩ | ⟨q, cleared, hplace, hkept, rfl⟩
  · rw [hat.1] at hplace
    cases hplace
  · rw [hat.1] at hplace
    cases hplace
    refine ⟨hkept.workingDirectory, ?_⟩
    rw [storeAt, databaseAt_put_self hat.2]
    exact hstore.opened_eq

theorem putStore_workingDirectory {h : DatabaseHandle} (hapart : Apart p h) (store : SnapshotStore) (files : Files) :
    (putStore h store).Ends files (fun _ after => after.workingDirectory = files.workingDirectory) (Keeps p files) := by
  unfold putStore
  refine Ends.bind (Ends.get (Ends.adapt ?_))
  refine (write_ends hapart _ files).mono (fun _ after hwritten => ?_) (fun _ hkept => hkept)
  rcases hwritten with ⟨-, rfl⟩ | ⟨q, cleared, -, hkept, rfl⟩
  · rfl
  · exact hkept.workingDirectory

/-- The name is that of a store that is kept in the file at a place, if it is the name of a database at all. -/
def NamesStore (p workingDirectory : Place) (location : String) : Prop :=
  ∀ d, DatabaseName.ofString? location = some d → d.isFleeting = false ∧ d.file.placeFrom workingDirectory = p

theorem NamesStore.isAt {workingDirectory : Place} {location : String} (hnames : NamesStore p workingDirectory location)
    {h : DatabaseHandle} (hopen : h.IsOf workingDirectory location) : IsAt p h := by
  obtain ⟨hfleeting, hfile⟩ := hnames h.name hopen.named
  have hplace := hopen.place
  rw [hfleeting, hfile] at hplace
  refine ⟨hplace, ?_⟩
  rintro rfl
  exact hopen.notRoot hplace

/-- Opening a store gives the store that is kept, and keeps it. -/
theorem openStore_ends {location : String} (hnames : NamesStore p files.workingDirectory location) :
    (openStore location).Ends files
      (fun result after => Keeps p files after ∧ IsAt p result.1 ∧ result.2 = files.storeAt p) (Keeps p files) := by
  unfold openStore
  extract_lets rest
  have hrest : ∀ made, Keeps p files made → (rest ⟨⟩).Ends made
      (fun result after => Keeps p files after ∧ IsAt p result.1 ∧ result.2 = files.storeAt p) (Keeps p files) := by
    intro made hmade
    rw [← hmade.workingDirectory] at hnames
    have hspared : p.Spared made.workingDirectory location := by
      intro d hd _
      rw [(hnames d hd).2]
      exact Place.not_isSideOf_self p
    simp only [rest]
    refine hmade.next (Ends.adapt (connect_ends hspared)) fun h opened hopened => ?_
    have hat := hnames.isAt hopened.2
    have hkept := hmade.trans hopened.1
    refine Ends.bind (Ends.get ?_)
    have hstore : ((opened.contents h).snapshots.getD {}).opened = files.storeAt p := by
      rw [← hkept.store, storeAt, ← contents_of_place hat.1]
    split
    · refine hkept.next (putStore_ends hat (SnapshotStore.isCurrent_opened _) opened) fun _ after hafter => ?_
      exact Ends.pure ⟨⟨hafter.1.trans hkept.workingDirectory, hafter.2.trans hstore⟩, hat, hstore⟩
    · exact Ends.pure ⟨hkept, hat, hstore⟩
  split
  · exact Ends.next (Ends.adapt (makeDirectories_keeps _ files)) fun _ made hmade => hrest made hmade
  · exact hrest files (Keeps.refl p files)

/-- The store that is opened is in the database of its name and has the present version. The working directory stays. -/
theorem openStore_opens (location : String) (files : Files) :
    (openStore location).Ends files
      (fun opened after => after.workingDirectory = files.workingDirectory ∧
        opened.1.IsOf files.workingDirectory location ∧ opened.2.IsCurrent)
      (fun after => after.workingDirectory = files.workingDirectory) := by
  have hends : (openStore location).Ends files
      (fun opened after => after.workingDirectory = files.workingDirectory ∧
        opened.1.IsOf files.workingDirectory location ∧ opened.2.IsCurrent) (Keeps [] files) := by
    unfold openStore
    extract_lets rest
    have hrest : ∀ made, Keeps [] files made → (rest ⟨⟩).Ends made
        (fun opened after => after.workingDirectory = files.workingDirectory ∧
          opened.1.IsOf files.workingDirectory location ∧ opened.2.IsCurrent) (Keeps [] files) := by
      intro made hmade
      have hspared : Place.Spared [] made.workingDirectory location := fun _ _ _ hside => hside.1 rfl
      simp only [rest]
      refine hmade.next (Ends.adapt (connect_ends hspared)) fun h opened hopened => ?_
      have hkept := hmade.trans hopened.1
      have hapart : Apart [] h := apart_of_isOf hspared hopened.2
      have hof : h.IsOf files.workingDirectory location := hmade.workingDirectory ▸ hopened.2
      refine Ends.bind (Ends.get ?_)
      split
      · refine hkept.next (putStore_workingDirectory hapart _ opened) fun _ after hafter => ?_
        exact Ends.pure ⟨hafter.trans hkept.workingDirectory, hof, SnapshotStore.isCurrent_opened _⟩
      · exact Ends.pure ⟨hkept.workingDirectory, hof, SnapshotStore.isCurrent_opened _⟩
    split
    · exact Ends.next (Ends.adapt (makeDirectories_keeps _ files)) fun _ made hmade => hrest made hmade
    · exact hrest files (Keeps.refl [] files)
  exact hends.mono (fun _ _ h => h) fun _ hkept => hkept.workingDirectory

end Files

end CatalogFinder
