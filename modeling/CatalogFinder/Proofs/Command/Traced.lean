import CatalogFinder.Command.Run
import CatalogFinder.Proofs.Files.Actions

/-!
# Commands with what they do to the snapshots

A command answers with a text and does not say which cache it worked with, nor whether it has put one into the store.
The traced commands say both, before they answer; but for that they are the commands themselves.

* `SnapshotEffect`, `Consultation`, `Command.Trace` : what a command does to the snapshots, and which cache it works
  with;
* `Command.traced`, `Invocation.traced` : the traced commands;
* `Command.run_eq_traced`, `Invocation.run_eq_traced` : a command is the traced command with its answer;
* `Invocation.exists_consultation` : a search or a look-up that answers has a cache to answer from;
* `Invocation.isOf_of_consultation` : for what a cache was asked, and that the answer comes from it.
-/

namespace CatalogFinder

open FileAction (Ends)

/-- What a command has done to the snapshots. -/
inductive SnapshotEffect where
  /-- The snapshot of an identity has been made from a catalog as it was then. -/
  | saved (identity : SnapshotIdentity) (catalog : HostedCatalog)
  | cleared (identity : SnapshotIdentity)
  | clearedAll

/-- The cache that a command works with, and for what it was asked. -/
structure Consultation where
  settings : Settings
  target : Target
  /-- A snapshot was not wanted. -/
  refresh : Bool
  cache : Cache

namespace Consultation

/-- What a snapshot of the target is made from. -/
def identity (c : Consultation) : SnapshotIdentity := c.target.identity c.settings

end Consultation

/-- `Target.cache`, and what it does to the snapshots. -/
def Target.consult (t : Target) (s : Surroundings) (settings : Settings) (refresh : Bool) :
    CommandAction (Cache × Option SnapshotEffect) := do
  if settings.snapshot.enabled then
    let (h, store) ← Command.openStore s settings
    let (cache, saved?) ← FileAction.of id (t.cacheIn settings s.time refresh store)
    match saved? with
    | some saved =>
      Command.putStore h saved
      return (cache, some (.saved (t.identity settings) t.catalog))
    | none => return (cache, none)
  else
    let cache ← FileAction.of .load (t.load settings)
    return (cache, none)

/-- What is found for the consultation. -/
def SearchCommand.answer (c : SearchCommand) (k : Consultation) : Except CommandError String :=
  let run := searchSource k.cache k.target.catalog.source k.settings.search.fetchSize (c.params k.settings)
  (run.result.mapError .search).map (Report.references · c.output)

/-- What is looked up in the consultation. -/
def ResolveCommand.answer (c : ResolveCommand) (category : Category) (schema : String) (k : Consultation) :
    Except CommandError String :=
  let reference : Reference := ⟨c.name, Command.containerOf schema c.owner, category⟩
  ((reference.resolve k.cache).mapError .search).map (Report.object · c.output)

namespace Command

/-- A fresh cache is wanted. -/
def refreshes : Command → Bool
  | search c => c.refresh
  | resolve c => c.refresh
  | _ => false

/-- What a command has done before it answers, and its answer. -/
structure Trace where
  consulted : Option Consultation := none
  effect : Option SnapshotEffect := none
  answer : Except CommandError String

/-- The answer alone. -/
def answered (traced : CommandAction Trace) : CommandAction String := do
  FileAction.of id (← traced).answer

/-- `runSearch`, traced. -/
def tracedSearch (s : Surroundings) (settings : Settings) (connection : Option String) (c : SearchCommand) :
    CommandAction Trace := do
  let target ← openTarget s settings connection
  if c.explain then
    let planned := plan .db2 target.connection.defaultSchema settings.search.fetchSize (c.params settings)
    return { answer := (planned.mapError .search).map Report.queries }
  else
    let (cache, effect) ← target.consult s settings c.refresh
    let k : Consultation := ⟨settings, target, c.refresh, cache⟩
    return ⟨some k, effect, c.answer k⟩

/-- `runResolve`, traced. -/
def tracedResolve (s : Surroundings) (settings : Settings) (connection : Option String) (c : ResolveCommand) :
    CommandAction Trace := do
  match c.objectType.category? with
  | none => throw (.notCached c.objectType)
  | some category =>
    let target ← openTarget s settings connection
    match c.schema.or target.connection.defaultSchema with
    | none => throw .noSchema
    | some schema =>
      let (cache, effect) ← target.consult s settings c.refresh
      let k : Consultation := ⟨settings, target, c.refresh, cache⟩
      return ⟨some k, effect, c.answer category schema k⟩

/-- `runSnapshot`, traced. -/
def tracedSnapshot (s : Surroundings) (settings : Settings) (connection : Option String) (c : SnapshotCommand) :
    CommandAction Trace := do
  let (h, store) ← openStore s settings
  match c with
  | .save =>
    let target ← openTarget s settings connection
    let cache ← FileAction.of .load (target.load settings)
    putStore h (store.save (target.identity settings).hash cache s.time)
    return {
      effect := some (.saved (target.identity settings) target.catalog)
      answer := .ok (Report.saved target.name cache) }
  | .clear =>
    let target ← openTarget s settings connection
    let (count, store) ← FileAction.of .snapshot (store.delete (target.identity settings).hash)
    putStore h store
    return { effect := some (.cleared (target.identity settings)), answer := .ok (Report.cleared target.name count) }
  | .clearAll =>
    putStore h store.clear
    return { effect := some .clearedAll, answer := .ok Report.clearedAll }
  | .stats => return { answer := .ok (Report.stats store.stats) }

/-- A traced command under settings. -/
def traced (s : Surroundings) (settings : Settings) (connection : Option String) : Command → CommandAction Trace
  | search c => tracedSearch s settings connection c
  | resolve c => tracedResolve s settings connection c
  | types => return { answer := .ok Report.types }
  | snapshot c => tracedSnapshot s settings connection c

end Command

/-- A traced command under the settings that are found. -/
def Invocation.traced (i : Invocation) (s : Surroundings) : CommandAction Command.Trace := do
  let settings ← FileAction.of .settings (Settings.lookup (← get) s.environment i.config)
  i.command.traced s settings i.connection

namespace Invocation

/-- What an invocation does to the snapshots. If it fails before it can answer, that is nothing. -/
def effect (i : Invocation) (s : Surroundings) (files : Files) : Option SnapshotEffect :=
  match (i.traced s).run files with
  | (.ok trace, _) => trace.effect
  | (.error _, _) => none

/-- The cache that an invocation works with, if it is a search or a look-up that gets that far. -/
def consultation (i : Invocation) (s : Surroundings) (files : Files) : Option Consultation :=
  match (i.traced s).run files with
  | (.ok trace, _) => trace.consulted
  | (.error _, _) => none

end Invocation

/-! ## The commands themselves -/

theorem FileAction.of_bind_pure {ε ε' α β : Type} (wrap : ε → ε') (result : Except ε α) (f : α → β) :
    (FileAction.of wrap result >>= fun a => pure (f a)) = FileAction.of id ((result.mapError wrap).map f) := by
  cases result <;> rfl

theorem Target.cache_eq_consult (t : Target) (s : Surroundings) (settings : Settings) (refresh : Bool) :
    t.cache s settings refresh = (·.1) <$> t.consult s settings refresh := by
  unfold cache consult
  split
  · simp only [map_eq_pure_bind, bind_assoc]
    congr 1
    funext opened
    obtain ⟨h, store⟩ := opened
    congr 1
    funext result
    obtain ⟨cache, saved?⟩ := result
    cases saved? <;> simp
  · simp

namespace Command

variable (s : Surroundings) (settings : Settings) (connection : Option String)

theorem runSearch_eq_traced (c : SearchCommand) :
    runSearch s settings connection c = answered (tracedSearch s settings connection c) := by
  unfold runSearch tracedSearch answered
  simp only [bind_assoc]
  congr 1
  funext target
  split
  · simp only [pure_bind]
    exact FileAction.of_bind_pure _ _ _
  · simp only [Target.cache_eq_consult, map_eq_pure_bind, bind_assoc, pure_bind, FileAction.of_bind_pure,
      SearchCommand.answer]

theorem runResolve_eq_traced (c : ResolveCommand) :
    runResolve s settings connection c = answered (tracedResolve s settings connection c) := by
  unfold runResolve tracedResolve answered
  cases c.objectType.category? with
  | none => rfl
  | some category =>
    simp only [bind_assoc]
    congr 1
    funext target
    cases c.schema.or target.connection.defaultSchema with
    | none => rfl
    | some schema =>
      simp only [Target.cache_eq_consult, map_eq_pure_bind, bind_assoc, pure_bind, FileAction.of_bind_pure,
        ResolveCommand.answer]

theorem runSnapshot_eq_traced (c : SnapshotCommand) :
    runSnapshot s settings connection c = answered (tracedSnapshot s settings connection c) := by
  unfold runSnapshot tracedSnapshot answered
  simp only [bind_assoc]
  congr 1
  funext opened
  obtain ⟨h, store⟩ := opened
  cases c with
  | save =>
    simp only [bind_assoc, pure_bind]
    rfl
  | clear =>
    simp only [bind_assoc, pure_bind]
    rfl
  | clearAll =>
    simp only [bind_assoc, pure_bind]
    rfl
  | stats => rfl

/-- A command is the traced command with its answer. -/
theorem run_eq_traced (c : Command) : c.run s settings connection = answered (c.traced s settings connection) := by
  cases c with
  | search c => exact runSearch_eq_traced s settings connection c
  | resolve c => exact runResolve_eq_traced s settings connection c
  | types => rfl
  | snapshot c => exact runSnapshot_eq_traced s settings connection c

end Command

/-- An invocation is the traced invocation with its answer. -/
theorem Invocation.run_eq_traced (i : Invocation) (s : Surroundings) : i.run s = Command.answered (i.traced s) := by
  unfold run traced Command.answered
  simp only [bind_assoc]
  congr 1
  funext files
  congr 1
  funext settings
  exact i.command.run_eq_traced s settings i.connection

/-- An invocation leaves the files behind that the traced invocation leaves behind. -/
theorem Invocation.files_run (i : Invocation) (s : Surroundings) (files : Files) :
    ((i.run s).run files).2 = ((i.traced s).run files).2 := by
  rw [run_eq_traced, Command.answered, FileAction.run_bind]
  rcases (i.traced s).run files with ⟨e | trace, after⟩
  · rfl
  · rfl

/-! ## Consultations -/

/-- What a search or a look-up answers from a cache. -/
inductive Command.Answers (k : Consultation) : Command → Except CommandError String → Prop
  | search (c : SearchCommand) : Answers k (.search c) (c.answer k)
  | resolve (c : ResolveCommand) {category : Category} {schema : String}
      (hcategory : c.objectType.category? = some category)
      (hschema : c.schema.or k.target.connection.defaultSchema = some schema) :
      Answers k (.resolve c) (c.answer category schema k)

/-- A cache is what an invocation answers from. It was asked for the connection that the invocation selects under the
settings that are found, whose catalog is the one that is opened there, and as fresh as the command wants it. -/
structure Consultation.IsOf (k : Consultation) (i : Invocation) (s : Surroundings) (files : Files) : Prop where
  found : Settings.lookup files s.environment i.config = .ok k.settings
  selected : k.settings.connection i.connection = .ok (k.target.name, k.target.connection)
  opened : ∃ after, (Command.openTarget s k.settings i.connection).run files = (.ok k.target, after)
  refresh : k.refresh = i.command.refreshes
  answers : i.command.Answers k ((i.run s).run files).1

namespace Command

variable {s : Surroundings} {settings : Settings} {name? : Option String} {files : Files}

theorem selected_openTarget {target : Target} {after : Files}
    (h : (openTarget s settings name?).run files = (.ok target, after)) :
    settings.connection name? = .ok (target.name, target.connection) := by
  have hends : (openTarget s settings name?).Ends files
      (fun target _ => settings.connection name? = .ok (target.name, target.connection)) (fun _ => True) := by
    unfold openTarget
    refine Ends.bind (Ends.of (fun selected hselected => ?_) trivial)
    refine Ends.bind (Ends.of (fun directory _ => ?_) trivial)
    exact Ends.after fun _ _ _ => Ends.pure hselected
  exact hends.of_run h

/-- What is known of the consultation of a traced command. -/
theorem traced_consults (c : Command) (s : Surroundings) (settings : Settings) (name? : Option String) (files : Files) :
    (c.traced s settings name?).Ends files
      (fun trace _ => ∀ k, trace.consulted = some k → k.settings = settings ∧ k.refresh = c.refreshes ∧
        c.Answers k trace.answer ∧ ∃ after, (openTarget s settings name?).run files = (.ok k.target, after))
      (fun _ => True) := by
  cases c with
  | search c =>
    refine Ends.after fun target opened hopened => ?_
    split
    · exact Ends.pure fun k hk => by cases hk
    · refine Ends.after fun result after _ => Ends.pure fun k hk => ?_
      cases hk
      exact ⟨rfl, rfl, .search c, opened, hopened⟩
  | resolve c =>
    show (tracedResolve s settings name? c).Ends files _ _
    unfold tracedResolve
    split
    next => exact Ends.throw trivial
    next category hcategory =>
      refine Ends.after fun target opened hopened => ?_
      split
      next => exact Ends.throw trivial
      next schema hschema =>
        refine Ends.after fun result after _ => Ends.pure fun k hk => ?_
        cases hk
        exact ⟨rfl, rfl, .resolve c hcategory hschema, opened, hopened⟩
  | types => exact Ends.pure fun k hk => by cases hk
  | snapshot c =>
    refine Ends.after fun result opened _ => ?_
    cases c with
    | save =>
      refine Ends.after fun target _ _ => Ends.after fun cache _ _ => Ends.after fun _ _ _ => Ends.pure fun k hk => ?_
      cases hk
    | clear =>
      refine Ends.after fun target _ _ => Ends.after fun deleted _ _ => Ends.after fun _ _ _ => Ends.pure fun k hk => ?_
      cases hk
    | clearAll => exact Ends.after fun _ _ _ => Ends.pure fun k hk => by cases hk
    | stats => exact Ends.pure fun k hk => by cases hk

end Command

namespace Command

/-- The command answers from a cache. -/
def consults : Command → Bool
  | search c => !c.explain
  | resolve _ => true
  | _ => false

theorem traced_consulted {c : Command} (h : c.consults = true) (s : Surroundings) (settings : Settings)
    (name? : Option String) (files : Files) :
    (c.traced s settings name?).Ends files (fun trace _ => trace.consulted.isSome = true) (fun _ => True) := by
  cases c with
  | search c =>
    refine Ends.after fun target opened _ => ?_
    have hexplain : c.explain = false := by simpa [consults] using h
    rw [if_neg (by simp [hexplain])]
    exact Ends.after fun _ _ _ => Ends.pure rfl
  | resolve c =>
    show (tracedResolve s settings name? c).Ends files _ _
    unfold tracedResolve
    split
    · exact Ends.throw trivial
    · refine Ends.after fun target opened _ => ?_
      split
      · exact Ends.throw trivial
      · exact Ends.after fun _ _ _ => Ends.pure rfl
  | types => cases h
  | snapshot c => cases h

end Command

/-- A search or a look-up that answers has a cache to answer from. -/
theorem Invocation.exists_consultation {i : Invocation} (h : i.command.consults = true) {s : Surroundings}
    {files : Files} {output : String} (hrun : ((i.run s).run files).1 = .ok output) :
    ∃ k, i.consultation s files = some k := by
  have hends : (i.traced s).Ends files (fun trace _ => trace.consulted.isSome = true) (fun _ => True) := by
    unfold traced
    refine Ends.bind (Ends.get (Ends.bind (Ends.of (fun settings _ => ?_) trivial)))
    exact Command.traced_consulted h s settings i.connection files
  rw [run_eq_traced, Command.answered, FileAction.run_bind] at hrun
  unfold consultation
  rcases htraced : (i.traced s).run files with ⟨e | trace, after⟩
  · rw [htraced] at hrun
    cases hrun
  · exact Option.isSome_iff_exists.1 (hends.of_run htraced)

/-- Where a cache is worked with, it is for the target that the invocation opens. -/
theorem Invocation.isOf_of_consultation {i : Invocation} {s : Surroundings} {files : Files} {k : Consultation}
    (h : i.consultation s files = some k) : k.IsOf i s files := by
  have hends : (i.traced s).Ends files
      (fun trace _ => ∀ k, trace.consulted = some k → Settings.lookup files s.environment i.config = .ok k.settings ∧
        k.refresh = i.command.refreshes ∧ i.command.Answers k trace.answer ∧
        ∃ after, (Command.openTarget s k.settings i.connection).run files = (.ok k.target, after)) (fun _ => True) := by
    unfold traced
    refine Ends.bind (Ends.get (Ends.bind (Ends.of (fun settings hsettings => ?_) trivial)))
    refine (i.command.traced_consults s settings i.connection files).mono (fun trace _ htrace k hk => ?_) (fun _ h => h)
    obtain ⟨rfl, hrest⟩ := htrace k hk
    exact ⟨hsettings, hrest⟩
  unfold consultation at h
  rcases hrun : (i.traced s).run files with ⟨e | trace, after⟩
  · rw [hrun] at h
    cases h
  · rw [hrun] at h
    obtain ⟨hfound, hrefresh, hanswers, opened, hopened⟩ := hends.of_run hrun k h
    have hanswer : ((i.run s).run files).1 = trace.answer := by
      rw [run_eq_traced, Command.answered, FileAction.run_bind, hrun]
      show trace.answer.mapError id = trace.answer
      cases trace.answer <;> rfl
    exact ⟨hfound, Command.selected_openTarget hopened, ⟨opened, hopened⟩, hrefresh, hanswer ▸ hanswers⟩

end CatalogFinder
