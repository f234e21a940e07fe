import CatalogFinder.Proofs.Command.Traced
import CatalogFinder.Proofs.Files.Kept
import CatalogFinder.Proofs.Snapshot.Identity

/-!
# What one command does to the store

Commands are run at a `Site`: in one environment and working directory, and with one snapshot section in the settings,
while connections, filters and catalogs may change from one command to the next.

* `Site`, `Site.Admits` : what does not change, and settings that are in keeping with it;
* `Turns` : what an effect makes of a store;
* `Consultation.IsFrom` : a cache comes from a store, or from the catalog as it is now;
* `Invocation.fits` : a command turns the store as its effect says, and works with a cache of one of the two kinds.
-/

namespace CatalogFinder

open FileAction (Ends)
open Files (Keeps IsAt NamesStore SparedByCatalog storeAt)

/-- Where commands are run. -/
structure Site where
  environment : Environment
  workingDirectory : Place
  snapshot : SnapshotSettings

namespace Site

/-- What a command finds around it at a time. -/
def surroundings (site : Site) (time : Nat) : Surroundings := ⟨site.environment, time⟩

/-- Where the snapshots are kept. -/
def location (site : Site) : Except CommandError String :=
  Command.storeLocation (site.surroundings 0) { snapshot := site.snapshot }

/-- Snapshots are used, and kept in the file at a place. -/
structure KeepsStoreAt (site : Site) (p : Place) : Prop where
  enabled : site.snapshot.enabled = true
  named : ∀ location, site.location = .ok location → NamesStore p site.workingDirectory location

/-- The place is not beside the database files of a connection's catalog. -/
def Spares (site : Site) (p : Place) (connection : Connection) : Prop :=
  ∀ directory, connection.resolvedPath site.environment = .ok directory →
    SparedByCatalog p site.workingDirectory directory

/-- The settings have the snapshot section of the site. The selected connection and the filter are among those that
are used. -/
structure Admits (site : Site) (used : SnapshotIdentity → Prop) (settings : Settings) (name? : Option String) :
    Prop where
  snapshot : settings.snapshot = site.snapshot
  used : ∀ name connection, settings.connection name? = .ok (name, connection) → used ⟨connection, settings.filter⟩

theorem storeLocation_eq {site : Site} {settings : Settings} (h : settings.snapshot = site.snapshot) (time : Nat) :
    Command.storeLocation (site.surroundings time) settings = site.location := by
  unfold location Command.storeLocation
  rw [h]
  rfl

end Site

/-- What an effect makes of a store. -/
inductive Turns : Option SnapshotEffect → SnapshotStore → SnapshotStore → Prop
  | nothing (store : SnapshotStore) : Turns none store store
  | saved {i : SnapshotIdentity} {catalog : HostedCatalog} {cache : Cache} {fetchSize : UInt32} (store : SnapshotStore)
      (time : Nat) (h : load catalog.session i.filter fetchSize = .ok cache) :
      Turns (some (.saved i catalog)) store (store.save i.hash cache time)
  | cleared {i : SnapshotIdentity} {store store' : SnapshotStore} {count : Nat}
      (h : store.delete i.hash = .ok (count, store')) : Turns (some (.cleared i)) store store'
  | clearedAll (store : SnapshotStore) : Turns (some .clearedAll) store store.clear

/-- The identity whose snapshot an effect concerns, unless it concerns all. -/
def SnapshotEffect.identity? : SnapshotEffect → Option SnapshotIdentity
  | saved i _ => some i
  | cleared i => some i
  | clearedAll => none

/-- The cache is the store's if a snapshot is wanted and there is one, and else that of the catalog as it is now. -/
def Consultation.IsFrom (c : Consultation) (store : SnapshotStore) : Prop :=
  (c.refresh = false ∧ store.load c.identity.hash = .ok (some c.cache)) ∨
    ((c.refresh = true ∨ store.load c.identity.hash = .ok none) ∧ c.target.load c.settings = .ok c.cache)

/-- What holds of a traced command: the store has been turned as the effect says, which concerns a used identity, and
the cache worked with is that of a used identity too. -/
structure Command.Trace.Fits (t : Trace) (site : Site) (p : Place) (used : SnapshotIdentity → Prop)
    (files after : Files) : Prop where
  workingDirectory : after.workingDirectory = files.workingDirectory
  turns : Turns t.effect (files.storeAt p) (after.storeAt p)
  concerns : ∀ i, t.effect.bind SnapshotEffect.identity? = some i → used i
  consults : ∀ c, t.consulted = some c → used c.identity ∧ c.IsFrom (files.storeAt p)

namespace Command

variable {site : Site} {p : Place} {used : SnapshotIdentity → Prop} {settings : Settings} {name? : Option String}
  {files : Files}

theorem openTarget_ends (hwd : files.workingDirectory = site.workingDirectory)
    (hspared : ∀ i, used i → site.Spares p i.connection) (hadmits : site.Admits used settings name?) (time : Nat) :
    (openTarget (site.surroundings time) settings name?).Ends files
      (fun target after => Keeps p files after ∧ used (target.identity settings)) (Keeps p files) := by
  unfold openTarget
  refine Ends.bind (Ends.of (fun selected hselected => ?_) (Keeps.refl p files))
  obtain ⟨name, connection⟩ := selected
  refine Ends.bind (Ends.of (fun directory hdirectory => ?_) (Keeps.refl p files))
  have hused : used ⟨connection, settings.filter⟩ := hadmits.used name connection hselected
  have hcatalog : SparedByCatalog p files.workingDirectory directory := by
    rw [hwd]
    exact hspared _ hused directory hdirectory
  exact Ends.next (Ends.adapt (Files.openCatalog_ends hcatalog)) fun _ _ hopened => Ends.pure ⟨hopened.1, hused⟩

theorem openStore_ends (hsite : site.KeepsStoreAt p) (hwd : files.workingDirectory = site.workingDirectory)
    (hsnapshot : settings.snapshot = site.snapshot) (time : Nat) :
    (openStore (site.surroundings time) settings).Ends files
      (fun result after => Keeps p files after ∧ IsAt p result.1 ∧ result.2 = files.storeAt p) (Keeps p files) := by
  unfold openStore
  rw [Site.storeLocation_eq hsnapshot]
  refine Ends.bind (Ends.of (fun location hlocation => ?_) (Keeps.refl p files))
  have hnames : NamesStore p files.workingDirectory location := by
    rw [hwd]
    exact hsite.named location hlocation
  exact Ends.adapt (Files.openStore_ends hnames)

theorem putStore_ends {h : DatabaseHandle} (hat : IsAt p h) {store : SnapshotStore} (hstore : store.IsCurrent) :
    (putStore h store).Ends files
      (fun _ after => after.workingDirectory = files.workingDirectory ∧ after.storeAt p = store) (Keeps p files) :=
  Ends.adapt (Files.putStore_ends hat hstore files)

end Command

/-- What holds when a target has been consulted. -/
structure Target.Consulted (t : Target) (settings : Settings) (refresh : Bool) (p : Place) (files after : Files)
    (result : Cache × Option SnapshotEffect) : Prop where
  workingDirectory : after.workingDirectory = files.workingDirectory
  turns : Turns result.2 (files.storeAt p) (after.storeAt p)
  concerns : ∀ i, result.2.bind SnapshotEffect.identity? = some i → i = t.identity settings
  isFrom : (⟨settings, t, refresh, result.1⟩ : Consultation).IsFrom (files.storeAt p)

/-- What a look-up in the store comes to: the store's own cache, or the catalog as it is now, saved. -/
theorem Target.of_cacheIn {t : Target} {settings : Settings} {time : Nat} {refresh : Bool} {store : SnapshotStore}
    {cache : Cache} {saved? : Option SnapshotStore} (h : t.cacheIn settings time refresh store = .ok (cache, saved?)) :
    (saved? = none ∧ refresh = false ∧ store.load (t.identity settings).hash = .ok (some cache)) ∨
      (saved? = some (store.save (t.identity settings).hash cache time) ∧
        (refresh = true ∨ store.load (t.identity settings).hash = .ok none) ∧ t.load settings = .ok cache) := by
  -- both ways to a fresh cache end in the same steps
  have hfresh : ((t.load settings).mapError CommandError.load >>= fun cache =>
        .ok (cache, some (store.save (t.identity settings).hash cache time))) = .ok (cache, saved?) →
      saved? = some (store.save (t.identity settings).hash cache time) ∧ t.load settings = .ok cache := by
    intro hresult
    cases hload : t.load settings with
    | error e =>
      rw [hload] at hresult
      cases hresult
    | ok loaded =>
      rw [hload] at hresult
      cases hresult
      exact ⟨rfl, rfl⟩
  unfold cacheIn at h
  cases refresh with
  | true => exact .inr ⟨(hfresh h).1, .inl rfl, (hfresh h).2⟩
  | false =>
    cases hkept : store.load (t.identity settings).hash with
    | error e =>
      simp only [hkept] at h
      cases h
    | ok kept =>
      simp only [hkept] at h
      cases kept with
      | none => exact .inr ⟨(hfresh h).1, .inr rfl, (hfresh h).2⟩
      | some kept =>
        cases h
        exact .inl ⟨rfl, rfl, rfl⟩

namespace Command

variable {site : Site} {p : Place} {used : SnapshotIdentity → Prop} {settings : Settings} {name? : Option String}
  {files : Files}

theorem consult_ends (hsite : site.KeepsStoreAt p) (hwd : files.workingDirectory = site.workingDirectory)
    (hsnapshot : settings.snapshot = site.snapshot) (time : Nat) (t : Target) (refresh : Bool) :
    (t.consult (site.surroundings time) settings refresh).Ends files
      (fun result after => t.Consulted settings refresh p files after result) (Keeps p files) := by
  have henabled : settings.snapshot.enabled = true := by rw [hsnapshot, hsite.enabled]
  unfold Target.consult
  rw [if_pos henabled]
  refine (openStore_ends hsite hwd hsnapshot time).next fun result opened hopened => ?_
  obtain ⟨h, store⟩ := result
  obtain ⟨hkept, hat, hstore⟩ := hopened
  simp only at hat hstore
  subst hstore
  refine Ends.bind (Ends.of (fun result hresult => ?_) hkept)
  obtain ⟨cache, saved?⟩ := result
  -- the store's own cache leaves the store as it is; a fresh one is put into it
  rcases Target.of_cacheIn hresult with ⟨rfl, hrefresh, hload⟩ | ⟨rfl, hload, hcache⟩
  · refine Ends.pure ⟨hkept.workingDirectory, ?_, (fun i hi => by cases hi), .inl ⟨hrefresh, hload⟩⟩
    rw [hkept.store]
    exact Turns.nothing _
  · have hcurrent : ((files.storeAt p).save (t.identity settings).hash cache time).IsCurrent :=
      (Files.isCurrent_storeAt files p).of_version (SnapshotStore.version_save _ _ _ _)
    refine hkept.next (putStore_ends hat hcurrent) fun _ after hafter => ?_
    refine Ends.pure ⟨hafter.1.trans hkept.workingDirectory, ?_, fun i hi => ?_, .inr ⟨hload, hcache⟩⟩
    · rw [hafter.2]
      exact Turns.saved _ time hcache
    · exact (Option.some.inj hi).symm

/-- A command that keeps the store and works with no cache. -/
theorem Trace.Fits.of_keeps {after : Files} (h : Keeps p files after) (answer : Except CommandError String) :
    Trace.Fits { answer := answer } site p used files after where
  workingDirectory := h.workingDirectory
  turns := by
    rw [h.store]
    exact Turns.nothing _
  concerns _ hi := by cases hi
  consults _ hc := by cases hc

/-- What is done after a target has been opened. -/
theorem Trace.Fits.of_opened {opened after : Files} {trace : Trace} (h : Keeps p files opened)
    (hfits : trace.Fits site p used opened after) : trace.Fits site p used files after where
  workingDirectory := hfits.workingDirectory.trans h.workingDirectory
  turns := by
    rw [← h.store]
    exact hfits.turns
  concerns := hfits.concerns
  consults := by
    rw [← h.store]
    exact hfits.consults

theorem Trace.Fits.of_consulted {t : Target} {refresh : Bool} {result : Cache × Option SnapshotEffect} {after : Files}
    (h : t.Consulted settings refresh p files after result) (hused : used (t.identity settings))
    (answer : Except CommandError String) :
    Trace.Fits ⟨some ⟨settings, t, refresh, result.1⟩, result.2, answer⟩ site p used files after where
  workingDirectory := h.workingDirectory
  turns := h.turns
  concerns i hi := by
    rw [h.concerns i hi]
    exact hused
  consults c hc := by
    cases hc
    exact ⟨hused, h.isFrom⟩

section

variable (hsite : site.KeepsStoreAt p) (hwd : files.workingDirectory = site.workingDirectory)
  (hspared : ∀ i, used i → site.Spares p i.connection) (hadmits : site.Admits used settings name?) (time : Nat)

include hsite hwd hspared hadmits

theorem tracedSearch_ends (c : SearchCommand) :
    (tracedSearch (site.surroundings time) settings name? c).Ends files
      (fun trace after => trace.Fits site p used files after) (Keeps p files) := by
  unfold tracedSearch
  refine (openTarget_ends hwd hspared hadmits time).next fun target opened h => ?_
  obtain ⟨hopened, hused⟩ := h
  split
  · exact Ends.pure (Trace.Fits.of_keeps hopened _)
  · have hwd' := hopened.workingDirectory.trans hwd
    refine hopened.next (consult_ends hsite hwd' hadmits.snapshot time target c.refresh) fun result after h => ?_
    exact Ends.pure (Trace.Fits.of_opened hopened (Trace.Fits.of_consulted h hused _))

theorem tracedResolve_ends (c : ResolveCommand) :
    (tracedResolve (site.surroundings time) settings name? c).Ends files
      (fun trace after => trace.Fits site p used files after) (Keeps p files) := by
  unfold tracedResolve
  split
  · exact Ends.throw (Keeps.refl p files)
  · refine (openTarget_ends hwd hspared hadmits time).next fun target opened h => ?_
    obtain ⟨hopened, hused⟩ := h
    split
    · exact Ends.throw hopened
    · have hwd' := hopened.workingDirectory.trans hwd
      refine hopened.next (consult_ends hsite hwd' hadmits.snapshot time target c.refresh) fun result after h => ?_
      exact Ends.pure (Trace.Fits.of_opened hopened (Trace.Fits.of_consulted h hused _))

theorem tracedSnapshot_ends (c : SnapshotCommand) :
    (tracedSnapshot (site.surroundings time) settings name? c).Ends files
      (fun trace after => trace.Fits site p used files after) (Keeps p files) := by
  unfold tracedSnapshot
  refine (openStore_ends hsite hwd hadmits.snapshot time).next fun result opened h => ?_
  obtain ⟨h, store⟩ := result
  obtain ⟨hopened, hat, hstore⟩ := h
  simp only at hat hstore
  subst hstore
  have hcurrent := Files.isCurrent_storeAt files p
  have hwd' := hopened.workingDirectory.trans hwd
  cases c with
  | save =>
    refine hopened.next (openTarget_ends hwd' hspared hadmits time) fun target after h => ?_
    have hkept := hopened.trans h.1
    refine Ends.bind (Ends.of (fun cache hcache => ?_) hkept)
    have hversion := hcurrent.of_version (SnapshotStore.version_save _ (target.identity settings).hash cache time)
    refine hkept.next (putStore_ends hat hversion) fun _ last hlast => ?_
    refine Ends.pure ⟨hlast.1.trans hkept.workingDirectory, ?_, fun i hi => ?_, fun c hc => by cases hc⟩
    · rw [hlast.2]
      exact Turns.saved _ time hcache
    · cases hi
      exact h.2
  | clear =>
    refine hopened.next (openTarget_ends hwd' hspared hadmits time) fun target after h => ?_
    have hkept := hopened.trans h.1
    refine Ends.bind (Ends.of (fun deleted hdeleted => ?_) hkept)
    have hversion := hcurrent.of_version (SnapshotStore.version_delete hdeleted)
    refine hkept.next (putStore_ends hat hversion) fun _ last hlast => ?_
    refine Ends.pure ⟨hlast.1.trans hkept.workingDirectory, ?_, fun i hi => ?_, fun c hc => by cases hc⟩
    · rw [hlast.2]
      exact Turns.cleared hdeleted
    · cases hi
      exact h.2
  | clearAll =>
    have hversion := hcurrent.of_version (SnapshotStore.version_clear _)
    refine hopened.next (putStore_ends hat hversion) fun _ last hlast => ?_
    refine Ends.pure ⟨hlast.1.trans hopened.workingDirectory, ?_, (fun i hi => by cases hi), fun c hc => by cases hc⟩
    rw [hlast.2]
    exact Turns.clearedAll _
  | stats => exact Ends.pure (Trace.Fits.of_keeps hopened _)

theorem traced_ends (c : Command) :
    (c.traced (site.surroundings time) settings name?).Ends files
      (fun trace after => trace.Fits site p used files after) (Keeps p files) := by
  cases c with
  | search c => exact tracedSearch_ends hsite hwd hspared hadmits time c
  | resolve c => exact tracedResolve_ends hsite hwd hspared hadmits time c
  | types => exact Ends.pure (Trace.Fits.of_keeps (Keeps.refl p files) _)
  | snapshot c => exact tracedSnapshot_ends hsite hwd hspared hadmits time c

end

end Command

namespace Invocation

variable {site : Site} {p : Place} {used : SnapshotIdentity → Prop} {files : Files}
  (hsite : site.KeepsStoreAt p) (hwd : files.workingDirectory = site.workingDirectory)
  (hspared : ∀ i, used i → site.Spares p i.connection) (i : Invocation)
  (hadmits : ∀ settings, Settings.lookup files site.environment i.config = .ok settings →
    site.Admits used settings i.connection)

include hsite hwd hspared hadmits

theorem traced_ends (time : Nat) :
    (i.traced (site.surroundings time)).Ends files (fun trace after => trace.Fits site p used files after)
      (Keeps p files) := by
  unfold traced
  refine Ends.bind (Ends.get (Ends.bind (Ends.of (fun settings hsettings => ?_) (Keeps.refl p files))))
  exact Command.traced_ends hsite hwd hspared (hadmits settings hsettings) time i.command

/-- What an invocation does to the store, and where the cache comes from that it works with. -/
theorem fits (time : Nat) (answer : Except CommandError String) :
    Command.Trace.Fits
      ⟨i.consultation (site.surroundings time) files, i.effect (site.surroundings time) files, answer⟩ site p used files
      ((i.run (site.surroundings time)).run files).2 := by
  have hends := traced_ends hsite hwd hspared i hadmits time
  rw [files_run]
  unfold consultation effect
  rcases hrun : (i.traced (site.surroundings time)).run files with ⟨e | trace, after⟩
  · exact Command.Trace.Fits.of_keeps (hends.of_error hrun) answer
  · have hfits := hends.of_run hrun
    exact ⟨hfits.workingDirectory, hfits.turns, hfits.concerns, hfits.consults⟩

end Invocation

end CatalogFinder
