import CatalogFinder.Command.Run
import CatalogFinder.Proofs.Files.Actions
import CatalogFinder.Proofs.Search.Shortened

/-!
# What runs is what is planned

A search puts the queries of its plan to the session, one after the other, and may stop before the last one. It has
stopped only if it was cancelled, has failed, or has as many references as it may return.

* `queriesOn_steps` : the queries that lie before a search are those of its plan;
* `events_prefix`, `events_eq` : what a search executes of its plan;
* `sent`, `plan_db2` : what is sent for a plan, in either dialect;
* `Command.runSearch_explains` : what is explained of a search;
* `search_runs_plan` : what runs is what is planned, and explained.
-/

namespace CatalogFinder

open Search
open FileAction (Ends)

namespace Search

/-! ## Queries along the way -/

section Way
variable {session : Session} {cache : Cache} {limit : Nat}

theorem queriesOn_querySteps (g : Group) (q : Query) : queriesOn (querySteps session g q) = [q] := by
  have hfailure : queriesOn ((session.reply q).failure.map Step.failure).toList = [] := by
    cases (session.reply q).failure <;> rfl
  have hrows : queriesOn (.start q :: rowSteps g true (session.reply q).rows) = [q] :=
    congrArg (q :: ·) (queriesOn_rowSteps g true (session.reply q).rows)
  rw [querySteps, queriesOn_append, hrows, hfailure, List.append_nil]

/-- The queries that lie before a search are those of its plan. -/
theorem queriesOn_steps (session : Session) (planned : List (Group × Query)) :
    queriesOn (steps session planned) = planned.map (·.2) := by
  induction planned with
  | nil => rfl
  | cons e planned ih =>
    show queriesOn (querySteps session e.1 e.2 ++ steps session planned) = _
    rw [queriesOn_append, queriesOn_querySteps, ih]
    rfl

/-- Where a walk is seen to be cancelled, the cancellation shows after the rows fetched so far. -/
theorem cancelled_of_ending {walked : List Step} {step : Step}
    (h : step.ending? session cache limit walked = some .cancelled) :
    session.cancelled (fetchedOn (walked ++ [step])) = true := by
  rw [fetchedOn_append]
  cases step with
  | failure e => cases h
  | start q =>
    by_cases hcancelled : session.cancelled (fetchedOn walked) = true
    · exact hcancelled
    · rw [Step.ending?, if_neg hcancelled] at h
      cases h
  | row g first r =>
    by_cases hcancelled : session.cancelled (fetchedOn walked + 1) = true
    · exact hcancelled
    · rw [ending?_row session limit hcancelled] at h
      split at h
      · cases h
      · split at h <;> cases h

/-- Where a walk ends as full, there are as many references as may be returned. -/
theorem length_of_ending {walked : List Step} {step : Step}
    (h : step.ending? session cache limit walked = some .full) :
    (hitsOn cache (walked ++ [step])).length = limit := by
  cases step with
  | failure e => cases h
  | start q =>
    by_cases hcancelled : session.cancelled (fetchedOn walked) = true
    · rw [Step.ending?, if_pos hcancelled] at h
      cases h
    · rw [Step.ending?, if_neg hcancelled] at h
      cases h
  | row g first r =>
    by_cases hcancelled : session.cancelled (fetchedOn walked + 1) = true
    · rw [Step.ending?, if_pos hcancelled] at h
      cases h
    · rw [ending?_row session limit hcancelled] at h
      split at h
      · cases h
      · split at h
        next hfull =>
          obtain ⟨hit, hhit⟩ := Option.isSome_iff_exists.1 hfull.1
          have hone : hitsOn cache [Step.row g first r] = [hit] := by simp [hitsOn, hhit]
          rw [hitsOn_append, hone, List.length_append]
          exact hfull.2
        next => cases h

/-- A search that has stopped at a step is cancelled, has failed, or has as many references as it may return. -/
theorem stopped_of_room {walked : List Step} {step : Step} {ending : Ending}
    (hending : step.ending? session cache limit walked = some ending) {hits : List Reference}
    (hhits : (stopped session cache walked (some (step, ending))).result = .ok hits) (hroom : hits.length < limit) :
    session.cancelled (stopped session cache walked (some (step, ending))).fetched = true := by
  rw [fetched_stopped_some]
  cases ending with
  | cancelled => exact cancelled_of_ending hending
  | full =>
    cases hhits
    have hlength := length_of_ending hending
    omega
  | failed e => cases hhits

variable (session cache) in
/-- A search goes along a first part of its way, and stops behind it or at a step that ends the walk. -/
theorem exists_stop (fetchSize : UInt32) {p : Params} (hp : p.validate = .ok ()) :
    ∃ walked rest stop, steps session (p.plan session.dialect session.defaultSchema fetchSize) = walked ++ rest ∧
      search cache session fetchSize p = stopped session cache walked stop ∧
      (rest = [] ∨ ∃ step ending, stop = some (step, ending) ∧
        step.ending? session cache p.maxResults.toNat walked = some ending) := by
  obtain ⟨walked, rest, hsplit, -, -, hstop⟩ := walk_eq session cache p.maxResults.toNat []
    (steps session (p.plan session.dialect session.defaultSchema fetchSize)) (maxResults_pos hp)
  rw [List.nil_append] at hstop
  cases rest with
  | nil => exact ⟨walked, [], none, hsplit, by rw [search_eq_walk session cache fetchSize hp, hstop], .inl rfl⟩
  | cons step rest =>
    obtain ⟨ending, hending, hwalk⟩ := hstop
    exact ⟨walked, step :: rest, some (step, ending), hsplit,
      by rw [search_eq_walk session cache fetchSize hp, hwalk], .inr ⟨step, ending, rfl, hending⟩⟩

/-- The queries of a plan are those put on a first part of the way, and those of the rest of it. -/
theorem map_executed_plan {planned : List (Group × Query)} {walked rest : List Step}
    (h : steps session planned = walked ++ rest) :
    planned.map (Event.executed ·.2) = (queriesOn walked).map .executed ++ (queriesOn rest).map .executed := by
  rw [← List.map_append, ← queriesOn_append, ← h, queriesOn_steps, List.map_map]
  rfl

/-- A search executes the first queries of its plan. -/
theorem events_prefix (fetchSize : UInt32) {p : Params} (hp : p.validate = .ok ()) :
    (search cache session fetchSize p).events <+:
      (p.plan session.dialect session.defaultSchema fetchSize).map (.executed ·.2) := by
  obtain ⟨walked, rest, stop, hsplit, hsearch, -⟩ := exists_stop session cache fetchSize hp
  rw [hsearch, events_stopped, map_executed_plan hsplit]
  exact List.prefix_append _ _

/-- It executes all of them if it has room left in the end and no cancellation shows. -/
theorem events_eq (fetchSize : UInt32) {p : Params} (hp : p.validate = .ok ()) {hits : List Reference}
    (hhits : (search cache session fetchSize p).result = .ok hits) (hroom : hits.length < p.maxResults.toNat)
    (hcancelled : session.cancelled (search cache session fetchSize p).fetched = false) :
    (search cache session fetchSize p).events =
      (p.plan session.dialect session.defaultSchema fetchSize).map (.executed ·.2) := by
  obtain ⟨walked, rest, stop, hsplit, hsearch, hstop⟩ := exists_stop session cache fetchSize hp
  rw [hsearch] at hhits hcancelled ⊢
  rw [events_stopped, map_executed_plan hsplit]
  rcases hstop with rfl | ⟨step, ending, rfl, hending⟩
  · exact (List.append_nil _).symm
  · rw [stopped_of_room hending hhits hroom] at hcancelled
    cases hcancelled

end Way

end Search

/-! ## Plans in either dialect -/

/-- What is sent for a query of a plan: its group, its text, its parameters and how many rows to fetch in one go. -/
def sent (e : Group × Query) : Group × String × List String × UInt32 :=
  (e.1, e.2.sql, e.2.parameters, e.2.fetchSize)

/-- The same, where the text asks to see uncommitted rows. -/
def sentUncommitted (e : Group × Query) : Group × String × List String × UInt32 :=
  (e.1, e.2.sql ++ "\nWITH UR", e.2.parameters, e.2.fetchSize)

theorem plan_db2 (defaultSchema : Option String) (fetchSize : UInt32) (p : Params) :
    (plan .db2 defaultSchema fetchSize p).map (·.map sent) =
      (plan .sqlite defaultSchema fetchSize p).map (·.map sentUncommitted) := by
  have hquery : ∀ g ∈ p.groups, sent (g, ⟨g.request p (p.scopeWithin defaultSchema), .db2, fetchSize⟩) =
      sentUncommitted (g, ⟨g.request p (p.scopeWithin defaultSchema), .sqlite, fetchSize⟩) := by
    intro g _
    simp only [sent, sentUncommitted, Query.sql, Query.parameters, Dialect.finish, Dialect.readIsolation?]
    rw [String.append_assoc]
    rfl
  unfold plan
  cases p.validate with
  | error e => rfl
  | ok =>
    have hplans : (p.plan .db2 defaultSchema fetchSize).map sent =
        (p.plan .sqlite defaultSchema fetchSize).map sentUncommitted := by
      simp only [Params.plan, List.map_map]
      exact List.map_congr_left hquery
    exact congrArg Except.ok hplans

theorem exists_plan_of_db2 {defaultSchema : Option String} {fetchSize : UInt32} {p : Params}
    {explained : List (Group × Query)} (h : plan .db2 defaultSchema fetchSize p = .ok explained) :
    ∃ planned, plan .sqlite defaultSchema fetchSize p = .ok planned ∧
      explained.map sent = planned.map sentUncommitted := by
  have hsent := plan_db2 defaultSchema fetchSize p
  rw [h] at hsent
  cases hplanned : plan .sqlite defaultSchema fetchSize p with
  | error e =>
    rw [hplanned] at hsent
    cases hsent
  | ok planned =>
    rw [hplanned] at hsent
    exact ⟨planned, rfl, Except.ok.inj hsent⟩

/-! ## What runs -/

namespace Command

variable {s : Surroundings} {settings : Settings} {connection : Option String} {files : Files}

/-- The sessions of a target search the schema that its connection names. -/
theorem session_openTarget : (openTarget s settings connection).Ends files
    (fun target _ => target.catalog.session.defaultSchema = target.connection.defaultSchema) (fun _ => True) := by
  unfold openTarget
  refine Ends.bind (Ends.of (fun selected _ => ?_) trivial)
  refine Ends.bind (Ends.of (fun directory _ => ?_) trivial)
  exact Ends.after fun _ _ _ => Ends.pure rfl

/-- What is explained of a search is written from a plan that is sent as that of the target's own session, but for the
last lines of its texts. -/
theorem runSearch_explains {c : SearchCommand} (hexplain : c.explain = true) :
    (runSearch s settings connection c).Ends files
      (fun text after => ∃ target planned explained,
        (openTarget s settings connection).run files = (.ok target, after) ∧
        plan target.catalog.session.dialect target.catalog.session.defaultSchema settings.search.fetchSize
          (c.params settings) = .ok planned ∧
        explained.map sent = planned.map sentUncommitted ∧ text = Report.queries explained)
      (fun _ => True) := by
  unfold runSearch
  refine session_openTarget.with_run.next fun target opened ⟨hschema, hopened⟩ => ?_
  rw [if_pos hexplain]
  refine Ends.bind (Ends.of (fun explained hexplained => Ends.pure ?_) trivial)
  obtain ⟨planned, hplanned, hsent⟩ := exists_plan_of_db2 hexplained
  rw [← hschema] at hplanned
  exact ⟨target, planned, explained, hopened, hplanned, hsent, rfl⟩

end Command

/-- **A search puts the first queries of its plan to the session**, and all of them if it ends with room left for more
references and shows no cancellation. The plan that is explained is that of a search in the other dialect: group by
group it has the same parameters and fetch sizes, and the same texts but for their last lines. -/
theorem search_runs_plan (cache : Cache) (session : Session) (fetchSize : UInt32) (p : Params) :
    (p.validate = .ok () →
      ∃ planned, plan session.dialect session.defaultSchema fetchSize p = .ok planned ∧
        (search cache session fetchSize p).events <+: planned.map (.executed ·.2) ∧
        ∀ hits, (search cache session fetchSize p).result = .ok hits → hits.length < p.maxResults.toNat →
          session.cancelled (search cache session fetchSize p).fetched = false →
          (search cache session fetchSize p).events = planned.map (.executed ·.2)) ∧
      (∀ defaultSchema, (plan .db2 defaultSchema fetchSize p).map (·.map sent) =
        (plan .sqlite defaultSchema fetchSize p).map (·.map sentUncommitted)) ∧
      ∀ (c : SearchCommand), c.explain = true → ∀ s settings connection files text after,
        (Command.runSearch s settings connection c).run files = (.ok text, after) →
        ∃ target planned explained, (Command.openTarget s settings connection).run files = (.ok target, after) ∧
          plan target.catalog.session.dialect target.catalog.session.defaultSchema settings.search.fetchSize
            (c.params settings) = .ok planned ∧
          explained.map sent = planned.map sentUncommitted ∧ text = Report.queries explained := by
  refine ⟨fun hp => ?_, fun defaultSchema => plan_db2 defaultSchema fetchSize p,
    fun c hexplain s settings connection files text after hrun => (Command.runSearch_explains hexplain).of_run hrun⟩
  refine ⟨p.plan session.dialect session.defaultSchema fetchSize, ?_, events_prefix fetchSize hp, ?_⟩
  · rw [plan, hp]
    rfl
  · intro hits hhits hroom hcancelled
    exact events_eq fetchSize hp hhits hroom hcancelled

/-! ## A search that goes on to its last query -/

/-- A search for tables and routines, of which there may be ten. -/
def tablesAndRoutines : Params where
  mask := "T"
  objectTypes := [.procedure, .category .table]
  maxResults := 10

/-- A session that has one table, and routines in no schema. -/
def looseSession : Session where
  dataSource := "loose"
  dialect := .db2
  defaultSchema := some "S"
  cancelAfter := some 3
  reply q := match q.request.view with
    | .tables => ⟨[⟨["TABSCHEMA", "TABNAME", "TYPE"], [some "S", some "T", some "T"]⟩], none⟩
    | _ => ⟨[⟨["ROUTINESCHEMA", "ROUTINENAME"], [some "R", some "T"]⟩], none⟩

/-- Settings with a catalog in a directory. -/
def explainSettings : Settings where
  connections := .ofList [("main", { path := "a", defaultSchema := some "S" })]

/-- A search that is to be explained. -/
def explainTables : SearchCommand where
  mask := "t_"
  types := [.category .nickname]
  explain := true

theorem search_loose_runs_plan :
    (tablesAndRoutines.validate = .ok () ∧
      ∃ planned, plan .db2 (some "S") 10 tablesAndRoutines = .ok planned ∧
        (search bareCache looseSession 10 tablesAndRoutines).result = .ok [⟨"T", .schema "S", .table⟩] ∧
        looseSession.cancelled (search bareCache looseSession 10 tablesAndRoutines).fetched = false ∧
        (search bareCache looseSession 10 tablesAndRoutines).events = planned.map (.executed ·.2)) ∧
      explainTables.explain = true ∧
      ∃ text after target planned explained,
        (Command.runSearch ⟨{}, 0⟩ explainSettings none explainTables).run {} = (.ok text, after) ∧
        (Command.openTarget ⟨{}, 0⟩ explainSettings none).run {} = (.ok target, after) ∧
        plan target.catalog.session.dialect target.catalog.session.defaultSchema 1000
          (explainTables.params explainSettings) = .ok planned ∧
        explained.map sent = planned.map sentUncommitted ∧ text = Report.queries explained := by
  obtain ⟨hsearch, -, hexplain⟩ := search_runs_plan bareCache looseSession 10 tablesAndRoutines
  obtain ⟨planned, hplanned, -, hwhole⟩ := hsearch rfl
  have hok : ((Command.runSearch ⟨{}, 0⟩ explainSettings none explainTables).run {}).1.toOption.isSome = true := by
    decide +kernel
  refine ⟨⟨rfl, planned, hplanned, rfl, rfl, hwhole _ rfl (by decide) rfl⟩, rfl, ?_⟩
  rcases hrun : (Command.runSearch ⟨{}, 0⟩ explainSettings none explainTables).run {} with ⟨e | text, after⟩
  · rw [hrun] at hok
    cases hok
  · exact ⟨text, after, (hexplain explainTables rfl _ _ _ _ text after hrun).imp fun target h =>
      h.imp fun planned h => h.imp fun explained h => ⟨rfl, h⟩⟩

end CatalogFinder
