import CatalogFinder.Search.Run

/-!
# A search as one walk

Whatever a search could meet, if nothing stopped it, is one list of `Step`s: for each query of its plan the start, the
rows of the reply one after the other, and the error that ends the reply, if one does. The search walks along this list
and stops at the first step that ends it. It does not ask for the plan: that the queries which it makes for its groups
are those planned is shown first.

* `runPlan` : what is taken from the replies to a plan, `search_eq_runPlan` that a search takes it;
* `steps` : what lies before a search;
* `Step.ending?` : whether a step ends a walk, and why;
* `stopped` : what a search gives when it has stopped at a step, or behind the last one;
* `search_eq_stopped` : a search stops at the first step that ends it, and gives what it then has.
-/

namespace CatalogFinder.Search

/-- What a search meets on its way. -/
inductive Step where
  /-- A query is about to be put to the session. -/
  | start (q : Query)
  /-- A row of a group is handed over, the first one of its reply or a later one. -/
  | row (g : Group) (first : Bool) (r : Row)
  /-- A reply ends with an error. -/
  | failure (e : SessionError)

/-- Why a walk ends before the last step. -/
inductive Ending where
  | cancelled
  /-- The row of the step gives the last reference that may be returned. -/
  | full
  | failed (e : SessionError)

namespace Step

/-- The step hands over a row. -/
def isRow : Step → Bool
  | row .. => true
  | _ => false

/-- The query that is put to the session. -/
def query? : Step → Option Query
  | start q => some q
  | _ => none

/-- The reference that the row of the step is tagged with. -/
def hit? (cache : Cache) : Step → Option Reference
  | row g _ r => (g.tag cache r).toOption.join
  | _ => none

/-- The error at a step: that of the reply, a column that its first row lacks, or that of the tagging. -/
def error? (cache : Cache) : Step → Option SessionError
  | start _ => none
  | row g first r =>
    match g.requiredColumns.find? fun c => first && !r.has c with
    | some column => some (.missingColumn column)
    | none =>
      match g.tag cache r with
      | .error e => some e
      | .ok _ => none
  | failure e => some e

end Step

/-! ## Along the way -/

/-- The steps of rows. Only the first of them can be the first one of a reply. -/
def rowSteps (g : Group) : Bool → List Row → List Step
  | _, [] => []
  | first, r :: rest => .row g first r :: rowSteps g false rest

/-- The steps of a query: its start, the rows of the reply, and the error that ends it. -/
def querySteps (session : Session) (g : Group) (q : Query) : List Step :=
  .start q :: rowSteps g true (session.reply q).rows ++ ((session.reply q).failure.map Step.failure).toList

/-- All that lies before a search with a plan. -/
def steps (session : Session) (plan : List (Group × Query)) : List Step :=
  plan.flatMap fun e => querySteps session e.1 e.2

/-- How many rows have been fetched on some steps. -/
def fetchedOn (walked : List Step) : Nat := walked.countP Step.isRow

/-- The queries put to the session on some steps. -/
def queriesOn (walked : List Step) : List Query := walked.filterMap Step.query?

/-- The references that the rows on some steps are tagged with. -/
def hitsOn (cache : Cache) (walked : List Step) : List Reference := walked.filterMap (Step.hit? cache)

/-- Why a step ends the walk that has led to it, if it does. The cancellation comes first: a row that is handed over
while it shows is not read. -/
def Step.ending? (session : Session) (cache : Cache) (limit : Nat) (walked : List Step) (step : Step) :
    Option Ending :=
  match step with
  | start _ => if session.cancelled (fetchedOn walked) then some .cancelled else none
  | row .. =>
    if session.cancelled (fetchedOn walked + 1) then some .cancelled
    else
      match step.error? cache, step.hit? cache with
      | some e, _ => some (.failed e)
      | none, some _ => if (hitsOn cache walked).length + 1 = limit then some .full else none
      | none, none => none
  | failure e => some (.failed e)

/-- What is taken along when the walk has stopped: at a step for a reason, or behind the last step. -/
def outcomeOf (cache : Cache) (walked : List Step) : Option (Step × Ending) → Outcome
  | none => ⟨.ok (hitsOn cache walked), queriesOn walked, fetchedOn walked⟩
  | some (step, .cancelled) => ⟨.ok (hitsOn cache walked), queriesOn walked, fetchedOn (walked ++ [step])⟩
  | some (step, .full) => ⟨.ok (hitsOn cache (walked ++ [step])), queriesOn walked, fetchedOn (walked ++ [step])⟩
  | some (step, .failed e) => ⟨.error e, queriesOn walked, fetchedOn (walked ++ [step])⟩

/-- What a search gives when it has stopped. -/
def stopped (session : Session) (cache : Cache) (walked : List Step) (stop : Option (Step × Ending)) : SearchRun :=
  let outcome := outcomeOf cache walked stop
  ⟨outcome.result.mapError (.dataAccess session.dataSource), outcome.executed.map .executed, outcome.fetched⟩

section Along
variable (cache : Cache) (walked more : List Step) (g : Group) (first : Bool)

@[simp] theorem fetchedOn_append : fetchedOn (walked ++ more) = fetchedOn walked + fetchedOn more :=
  List.countP_append

@[simp] theorem queriesOn_append : queriesOn (walked ++ more) = queriesOn walked ++ queriesOn more :=
  List.filterMap_append

@[simp] theorem hitsOn_append : hitsOn cache (walked ++ more) = hitsOn cache walked ++ hitsOn cache more :=
  List.filterMap_append

@[simp] theorem fetchedOn_rowSteps (rows : List Row) : fetchedOn (rowSteps g first rows) = rows.length := by
  induction rows generalizing first with
  | nil => rfl
  | cons r rest ih =>
    unfold fetchedOn at ih ⊢
    rw [rowSteps, List.countP_cons_of_pos rfl, ih, List.length_cons]

@[simp] theorem queriesOn_rowSteps (rows : List Row) : queriesOn (rowSteps g first rows) = [] := by
  induction rows generalizing first with
  | nil => rfl
  | cons r rest ih => exact ih false

end Along

/-! ## The walk -/

section Walk
variable (session : Session) (cache : Cache) (limit : Nat)

/-- Walks on, up to the first step that ends the walk. -/
def walk (walked : List Step) : List Step → List Step × Option (Step × Ending)
  | [] => (walked, none)
  | step :: rest =>
    match step.ending? session cache limit walked with
    | some ending => (walked, some (step, ending))
    | none => walk (walked ++ [step]) rest

variable {session cache limit}

theorem walk_of_none {walked : List Step} {step : Step} (rest : List Step)
    (h : step.ending? session cache limit walked = none) :
    walk session cache limit walked (step :: rest) = walk session cache limit (walked ++ [step]) rest := by
  rw [walk, h]

theorem walk_of_some {walked : List Step} {step : Step} {ending : Ending} (rest : List Step)
    (h : step.ending? session cache limit walked = some ending) :
    walk session cache limit walked (step :: rest) = (walked, some (step, ending)) := by
  rw [walk, h]

/-- A step that does not end the walk leaves room for one more reference. -/
theorem length_hitsOn_lt {walked : List Step} {step : Step} (hlt : (hitsOn cache walked).length < limit)
    (h : step.ending? session cache limit walked = none) : (hitsOn cache (walked ++ [step])).length < limit := by
  rw [hitsOn_append, List.length_append]
  cases hhit : step.hit? cache with
  | none => simpa [hitsOn, hhit] using hlt
  | some hit =>
    cases step with
    | start q => cases hhit
    | failure e => cases hhit
    | row g first r =>
      have hone : (hitsOn cache [Step.row g first r]).length = 1 := by simp [hitsOn, hhit]
      have hne : (hitsOn cache walked).length + 1 ≠ limit := by
        intro heq
        cases herror : (Step.row g first r).error? cache <;>
          by_cases hcancelled : session.cancelled (fetchedOn walked + 1) = true <;>
          simp [Step.ending?, hcancelled, herror, hhit, heq] at h
      omega

variable (session cache limit) in
/-- A walk goes along a first part of the steps, none of which ends it, and stops behind the last step or at the first
one that does end it. -/
theorem walk_eq (walked path : List Step) (hlt : (hitsOn cache walked).length < limit) :
    ∃ taken rest, path = taken ++ rest ∧
      (∀ prior step later, taken = prior ++ step :: later →
        step.ending? session cache limit (walked ++ prior) = none) ∧
      (hitsOn cache (walked ++ taken)).length < limit ∧
      match rest with
      | [] => walk session cache limit walked path = (walked ++ taken, none)
      | step :: _ => ∃ ending, step.ending? session cache limit (walked ++ taken) = some ending ∧
          walk session cache limit walked path = (walked ++ taken, some (step, ending)) := by
  -- the invariant is that there is room for one more reference
  induction path generalizing walked with
  | nil => exact ⟨[], [], rfl, by simp, by simpa using hlt, by simp [walk]⟩
  | cons step path ih =>
    cases h : step.ending? session cache limit walked with
    | some ending =>
      refine ⟨[], step :: path, rfl, by simp, by simpa using hlt, ending, by simpa using h, ?_⟩
      rw [walk_of_some path h, List.append_nil]
    | none =>
      obtain ⟨taken, rest, rfl, hnone, hlength, hstop⟩ := ih (walked ++ [step]) (length_hitsOn_lt hlt h)
      rw [walk_of_none _ h]
      simp only [List.append_assoc, List.singleton_append] at hnone hlength hstop ⊢
      refine ⟨step :: taken, rest, rfl, ?_, hlength, hstop⟩
      intro prior s later hsplit
      rcases List.cons_eq_append_iff.1 hsplit with ⟨rfl, hcons⟩ | ⟨prior, rfl, htaken⟩
      · obtain ⟨rfl, -⟩ := List.cons.inj hcons
        simpa using h
      · exact hnone prior s later htaken

end Walk

/-! ## Reading rows -/

section Rows
variable {session : Session} {cache : Cache} {limit : Nat} {g : Group} {walked : List Step}

theorem read_eq (first : Bool) (r : Row) :
    g.read cache first r =
      match (Step.row g first r).error? cache with
      | some e => .error e
      | none => .ok ((Step.row g first r).hit? cache) := by
  unfold Group.read
  have hfind : (if first then g.requiredColumns.find? (!r.has ·) else none) =
      g.requiredColumns.find? fun c => first && !r.has c := by
    cases first with
    | true => simp
    | false => exact (List.find?_eq_none.2 fun c _ => by simp).symm
  rw [hfind]
  cases h : g.requiredColumns.find? fun c => first && !r.has c with
  | some column => simp only [Step.error?, h]
  | none =>
    cases ht : g.tag cache r with
    | error e => simp only [Step.error?, h, ht]
    | ok hit => simp only [Step.error?, Step.hit?, h, ht]; rfl

/-- What is taken from rows, when the walk along them stops at one. -/
def Reading.StopsAt (reading : Reading) (session : Session) (cache : Cache) (room : Nat) (walked taken : List Step)
    (step : Step) (ending : Ending) : Prop :=
  reading.fetched = fetchedOn (walked ++ taken ++ [step]) ∧
    match ending with
    | .cancelled =>
      reading.failure = none ∧ reading.hits = hitsOn cache taken ∧ session.cancelled reading.fetched = true
    | .full =>
      reading.failure = none ∧ reading.hits = hitsOn cache (taken ++ [step]) ∧ reading.hits.length = room
    | .failed e => reading.failure = some e

/-- What is taken from rows that lie before a walk: all of them, up to the failure behind them, or those up to the one
at which the walk stops. -/
inductive Reading.Follows (session : Session) (cache : Cache) (limit : Nat) (failure : Option SessionError)
    (more : List Step) (room : Nat) (walked path : List Step) : Reading → Prop
  | through : (hitsOn cache (walked ++ path)).length < limit →
      walk session cache limit walked (path ++ more) = walk session cache limit (walked ++ path) more →
      Follows session cache limit failure more room walked path
        ⟨hitsOn cache path, failure, fetchedOn (walked ++ path)⟩
  | stopped {reading : Reading} (taken : List Step) (step : Step) (ending : Ending) : queriesOn taken = [] →
      walk session cache limit walked (path ++ more) = (walked ++ taken, some (step, ending)) →
      reading.StopsAt session cache room walked taken step ending →
      Follows session cache limit failure more room walked path reading

/-- A row that does not end the walk is put in front of the rest. -/
theorem Reading.Follows.cons {failure : Option SessionError} {more path : List Step} {room : Nat} {first : Bool}
    {r : Row} {reading : Reading} (hending : (Step.row g first r).ending? session cache limit walked = none)
    (h : reading.Follows session cache limit failure more room (walked ++ [.row g first r]) path) :
    { reading with hits := hitsOn cache [.row g first r] ++ reading.hits : Reading }.Follows session cache limit failure
      more ((hitsOn cache [.row g first r]).length + room) walked (.row g first r :: path) := by
  have hsplit : walked ++ Step.row g first r :: path = walked ++ [.row g first r] ++ path := by simp
  cases h with
  | through hlt hwalk =>
    rw [← hitsOn_append, ← hsplit]
    refine .through ?_ ?_
    · rwa [hsplit]
    · rw [List.cons_append, walk_of_none _ hending, hwalk, hsplit]
  | stopped taken step ending hqueries hwalk hstop =>
    refine .stopped (.row g first r :: taken) step ending hqueries ?_ ?_
    · rw [List.cons_append, walk_of_none _ hending, hwalk]
      simp
    · obtain ⟨hfetched, hstop⟩ := hstop
      refine ⟨by simpa using hfetched, ?_⟩
      cases ending with
      | cancelled =>
        obtain ⟨hfailure, hhits, hcancelled⟩ := hstop
        refine ⟨hfailure, ?_, hcancelled⟩
        rw [hhits, ← hitsOn_append, List.singleton_append]
      | full =>
        obtain ⟨hfailure, hhits, hlength⟩ := hstop
        refine ⟨hfailure, ?_, ?_⟩
        · rw [hhits, ← hitsOn_append]
          rfl
        · rw [List.length_append, hlength]
      | failed e => exact hstop

/-- **Rows are read as far as the walk goes along them.** -/
theorem readRows_follows (failure : Option SessionError) (more : List Step) (rows : List Row) (first : Bool)
    (walked : List Step) (room : Nat) (hroom : 0 < room) (hlimit : (hitsOn cache walked).length + room = limit) :
    (readRows session cache g failure room (fetchedOn walked) first rows).Follows session cache limit failure more room
      walked (rowSteps g first rows) := by
  -- the room that is left and what has been found add up to the limit
  induction rows generalizing first walked room with
  | nil =>
    have hthrough : (⟨hitsOn cache [], failure, fetchedOn (walked ++ [])⟩ : Reading).Follows session cache limit failure
        more room walked [] := by
      refine .through ?_ (by simp)
      rw [List.append_nil]
      omega
    simpa [readRows, rowSteps, hitsOn] using hthrough
  | cons r rows ih =>
    have hfetched : fetchedOn (walked ++ [Step.row g first r]) = fetchedOn walked + 1 := fetchedOn_append walked _
    rw [rowSteps, readRows]
    by_cases hcancelled : session.cancelled (fetchedOn walked + 1) = true
    · have hending : (Step.row g first r).ending? session cache limit walked = some .cancelled := by
        simp [Step.ending?, hcancelled]
      simp only [hcancelled, if_true]
      refine .stopped [] (.row g first r) .cancelled rfl ?_ ⟨?_, rfl, rfl, hcancelled⟩
      · rw [List.cons_append, walk_of_some _ hending, List.append_nil]
      · rw [List.append_nil, hfetched]
    · simp only [hcancelled, Bool.false_eq_true, if_false, read_eq]
      cases herror : (Step.row g first r).error? cache with
      | some e =>
        have hending : (Step.row g first r).ending? session cache limit walked = some (.failed e) := by
          simp [Step.ending?, hcancelled, herror]
        refine .stopped [] (.row g first r) (.failed e) rfl ?_ ⟨?_, rfl⟩
        · rw [List.cons_append, walk_of_some _ hending, List.append_nil]
        · rw [List.append_nil, hfetched]
      | none =>
        cases hhit : (Step.row g first r).hit? cache with
        | none =>
          have hone : hitsOn cache [Step.row g first r] = [] := by simp [hitsOn, hhit]
          have hending : (Step.row g first r).ending? session cache limit walked = none := by
            simp [Step.ending?, hcancelled, herror, hhit]
          have hrest := ih false (walked ++ [.row g first r]) room hroom
            (by rw [hitsOn_append, hone]; simpa using hlimit)
          simpa [hone, hfetched] using hrest.cons hending
        | some hit =>
          have hone : hitsOn cache [Step.row g first r] = [hit] := by simp [hitsOn, hhit]
          -- the last reference for which there is room ends the walk
          by_cases hlast : room ≤ 1
          · have hending : (Step.row g first r).ending? session cache limit walked = some .full := by
              simp only [Step.ending?, hcancelled, Bool.false_eq_true, if_false, herror, hhit]
              rw [if_pos (by omega)]
            simp only [hlast, if_true]
            refine .stopped [] (.row g first r) .full rfl ?_ ⟨?_, rfl, hone.symm, ?_⟩
            · rw [List.cons_append, walk_of_some _ hending, List.append_nil]
            · rw [List.append_nil, hfetched]
            · simp only [List.length_singleton]
              omega
          · have hending : (Step.row g first r).ending? session cache limit walked = none := by
              simp only [Step.ending?, hcancelled, Bool.false_eq_true, if_false, herror, hhit]
              rw [if_neg (by omega)]
            have hrest := ih false (walked ++ [.row g first r]) (room - 1) (by omega)
              (by rw [hitsOn_append, hone, List.length_append, List.length_singleton]; omega)
            have hcons := hrest.cons hending
            rw [hone, List.length_singleton, show 1 + (room - 1) = room by omega, hfetched] at hcons
            simp only [hlast, if_false]
            exact hcons

end Rows

/-! ## Running a plan -/

section Plan
variable {session : Session} {cache : Cache} {limit : Nat}

/-- Takes up to `room` references from the replies to a plan, where so many rows have been fetched before. -/
def runPlan (session : Session) (cache : Cache) : (room fetched : Nat) → List (Group × Query) → Outcome
  | _, fetched, [] => ⟨.ok [], [], fetched⟩
  | room, fetched, (g, query) :: rest =>
    if room = 0 || session.cancelled fetched then ⟨.ok [], [], fetched⟩
    else
      let reply := session.reply query
      let reading := readRows session cache g reply.failure room fetched true reply.rows
      match reading.failure with
      | some e => ⟨.error e, [query], reading.fetched⟩
      | none =>
        let later := runPlan session cache (room - reading.hits.length) reading.fetched rest
        ⟨later.result.map (reading.hits ++ ·), query :: later.executed, later.fetched⟩

/-- Groups that are asked one after the other are asked as they would be by a plan of their queries. -/
theorem runGroups_eq_runPlan (query : Group → Query) (groups : List Group) (room fetched : Nat) :
    runGroups session cache query room fetched groups =
      runPlan session cache room fetched (groups.map fun g => (g, query g)) := by
  induction groups generalizing room fetched with
  | nil => rfl
  | cons g groups ih =>
    rw [List.map_cons, runGroups, runPlan]
    by_cases hroom : room = 0
    · simp [hroom]
    · by_cases hcancelled : session.cancelled fetched = true
      · simp [hcancelled]
      · simp only [hroom, hcancelled, decide_false, Bool.or_self, Bool.false_eq_true, if_false]
        generalize readRows session cache g (session.reply (query g)).failure room fetched true
          (session.reply (query g)).rows = reading
        cases hfailure : reading.failure with
        | none => simp only [ih]
        | some e => rfl

/-- **A search runs its plan**, though it makes the queries itself, one after the other. -/
theorem search_eq_runPlan (session : Session) (cache : Cache) (fetchSize : UInt32) {p : Params}
    (hp : p.validate = .ok ()) :
    search cache session fetchSize p =
      let outcome := runPlan session cache p.maxResults.toNat 0
        (p.plan session.dialect session.defaultSchema fetchSize)
      ⟨outcome.result.mapError (.dataAccess session.dataSource), outcome.executed.map .executed, outcome.fetched⟩ := by
  unfold search
  simp only [hp]
  by_cases hnone : p.categories.isEmpty = true
  · -- no group serves a category
    have hplan : p.plan session.dialect session.defaultSchema fetchSize = [] := by
      rw [List.isEmpty_iff] at hnone
      simp [Params.plan, Params.groups, hnone]
    rw [if_pos hnone, hplan]
    rfl
  · rw [if_neg hnone, runGroups_eq_runPlan]
    rfl

/-- What has been taken along before, together with what comes later. -/
def Outcome.after (cache : Cache) (walked : List Step) (later : Outcome) : Outcome :=
  ⟨later.result.map (hitsOn cache walked ++ ·), queriesOn walked ++ later.executed, later.fetched⟩

@[simp] theorem Outcome.after_nil (later : Outcome) : later.after cache [] = later := by
  obtain ⟨result, executed, fetched⟩ := later
  cases result <;> rfl

/-- A query and the rows of its reply are put in front of what comes later. -/
theorem Outcome.after_query (walked path : List Step) (q : Query) (later : Outcome) (h : queriesOn path = []) :
    (⟨later.result.map (hitsOn cache path ++ ·), q :: later.executed, later.fetched⟩ : Outcome).after cache walked =
      later.after cache (walked ++ [.start q] ++ path) := by
  have hhits : hitsOn cache (walked ++ [.start q] ++ path) = hitsOn cache walked ++ hitsOn cache path := by
    rw [hitsOn_append, hitsOn_append]
    exact congrArg (· ++ _) (List.append_nil _)
  have hqueries : queriesOn (walked ++ [.start q] ++ path) = queriesOn walked ++ [q] := by
    rw [queriesOn_append, h, List.append_nil]
    exact queriesOn_append walked _
  rw [Outcome.after, Outcome.after, hhits, hqueries]
  cases later.result <;> simp [Except.map]

/-- Nothing is run once no more references may be returned or the cancellation shows. -/
theorem runPlan_of_done {room fetched : Nat} (plan : List (Group × Query))
    (h : room = 0 ∨ session.cancelled fetched = true) :
    runPlan session cache room fetched plan = ⟨.ok [], [], fetched⟩ := by
  cases plan with
  | nil => rfl
  | cons e plan =>
    obtain ⟨g, q⟩ := e
    rw [runPlan, if_pos]
    simpa using h

variable (session cache) in
/-- **A plan is run as far as the walk goes along its steps.** -/
theorem runPlan_walk (plan : List (Group × Query)) (walked : List Step) (room : Nat) (hroom : 0 < room)
    (hlimit : (hitsOn cache walked).length + room = limit) :
    (runPlan session cache room (fetchedOn walked) plan).after cache walked =
      outcomeOf cache (walk session cache limit walked (steps session plan)).1
        (walk session cache limit walked (steps session plan)).2 := by
  induction plan generalizing walked room with
  | nil => simp [runPlan, Outcome.after, steps, walk, outcomeOf, Except.map]
  | cons e plan ih =>
    obtain ⟨g, q⟩ := e
    have hsteps : steps session ((g, q) :: plan) = .start q :: (rowSteps g true (session.reply q).rows ++
        (((session.reply q).failure.map Step.failure).toList ++ steps session plan)) := by
      simp [steps, querySteps]
    have hstart : fetchedOn (walked ++ [Step.start q]) = fetchedOn walked := fetchedOn_append walked _
    have hhits : hitsOn cache (walked ++ [Step.start q]) = hitsOn cache walked := by
      rw [hitsOn_append]
      exact List.append_nil _
    have hqueries : queriesOn (walked ++ [Step.start q]) = queriesOn walked ++ [q] := queriesOn_append walked _
    rw [hsteps, runPlan]
    by_cases hcancelled : session.cancelled (fetchedOn walked) = true
    · have hending : (Step.start q).ending? session cache limit walked = some .cancelled := by
        simp [Step.ending?, hcancelled]
      rw [walk_of_some _ hending, if_pos (by simp [hcancelled])]
      simp only [Outcome.after, outcomeOf, Except.map, hstart, List.append_nil]
    · rw [walk_of_none _ (by simp [Step.ending?, hcancelled]), if_neg (by simp [hcancelled, Nat.ne_of_gt hroom])]
      have hfollows : (readRows session cache g (session.reply q).failure room
          (fetchedOn (walked ++ [Step.start q])) true (session.reply q).rows).Follows session cache limit
          (session.reply q).failure (((session.reply q).failure.map Step.failure).toList ++ steps session plan) room
          (walked ++ [.start q]) (rowSteps g true (session.reply q).rows) :=
        readRows_follows _ _ _ _ _ _ hroom (by rw [hhits]; exact hlimit)
      rw [hstart] at hfollows
      generalize hreading : readRows session cache g (session.reply q).failure room (fetchedOn walked) true
        (session.reply q).rows = reading at hfollows
      simp only [hreading]
      cases hfollows with
      -- the reply has been read to its end, at which it may fail
      | through hlt hwalk =>
        rw [hwalk]
        cases hfailure : (session.reply q).failure with
        | some e =>
          rw [Option.map_some, Option.toList_some, List.singleton_append, walk_of_some _ rfl]
          simp only [Outcome.after, outcomeOf, Except.map, queriesOn_append, queriesOn_rowSteps, List.append_nil]
          rw [fetchedOn_append _ [Step.failure e]]
          rfl
        | none =>
          have hlimit' : (hitsOn cache (walked ++ [.start q] ++ rowSteps g true (session.reply q).rows)).length +
              (room - (hitsOn cache (rowSteps g true (session.reply q).rows)).length) = limit := by
            rw [hitsOn_append, hhits, List.length_append] at hlt ⊢
            omega
          have hlater := ih _ _ (by omega) hlimit'
          simp only [Option.map_none, Option.toList_none, List.nil_append]
          rw [← hlater]
          exact Outcome.after_query walked _ q _ (queriesOn_rowSteps _ _ _)
      -- the walk has ended within the rows, so the queries that are left are not run
      | stopped taken step ending htaken hwalk hstop =>
        rw [hwalk]
        obtain ⟨hfetched, hstop⟩ := hstop
        cases ending with
        | cancelled =>
          obtain ⟨hfailure, htook, hcancelled⟩ := hstop
          rw [hfailure, runPlan_of_done plan (.inr hcancelled)]
          simp only [Outcome.after, outcomeOf, Except.map, hitsOn_append _ _ taken, queriesOn_append _ taken, hhits,
            hqueries, htaken, htook, hfetched, List.append_nil]
        | full =>
          obtain ⟨hfailure, htook, hlength⟩ := hstop
          rw [hfailure, runPlan_of_done plan (.inl (by omega))]
          simp only [Outcome.after, outcomeOf, Except.map, queriesOn_append _ taken, List.append_assoc _ taken,
            hitsOn_append _ _ (taken ++ [step]), hhits, hqueries, htaken, htook, hfetched, List.append_nil]
        | failed e =>
          rw [hstop]
          simp only [Outcome.after, outcomeOf, Except.map, queriesOn_append _ taken, hqueries, htaken, hfetched,
            List.append_nil]

/-- Whatever a plan gives has been tagged from a row of a reply to it. -/
theorem hits_of_runPlan {plan : List (Group × Query)} {room : Nat} {hits : List Reference} (hroom : 0 < room)
    (h : (runPlan session cache room 0 plan).result = .ok hits) :
    ∀ r ∈ hits, r ∈ hitsOn cache (steps session plan) := by
  have hrun := runPlan_walk session cache plan [] room hroom (Nat.zero_add _)
  rw [Outcome.after_nil] at hrun
  have hresult : (outcomeOf cache (walk session cache room [] (steps session plan)).1
      (walk session cache room [] (steps session plan)).2).result = .ok hits := by
    rw [← hrun]
    exact h
  obtain ⟨taken, rest, hsplit, -, -, hstop⟩ := walk_eq session cache room [] (steps session plan) hroom
  rw [List.nil_append] at hstop
  intro r hr
  rw [hsplit, hitsOn_append, List.mem_append]
  cases rest with
  | nil =>
    rw [hstop] at hresult
    cases hresult
    exact .inl hr
  | cons step rest =>
    obtain ⟨ending, -, hwalk⟩ := hstop
    rw [hwalk] at hresult
    cases ending with
    | cancelled =>
      cases hresult
      exact .inl hr
    | full =>
      cases hresult
      simp only [hitsOn_append, List.mem_append] at hr
      refine hr.imp_right fun hr => ?_
      rw [← List.singleton_append, hitsOn_append]
      exact List.mem_append_left _ hr
    | failed e => cases hresult

theorem mem_rowSteps {g : Group} {first : Bool} {rows : List Row} {step : Step} (h : step ∈ rowSteps g first rows) :
    ∃ row ∈ rows, ∃ first, step = .row g first row := by
  induction rows generalizing first with
  | nil => cases h
  | cons row rows ih =>
    rcases List.mem_cons.1 h with rfl | h
    · exact ⟨row, List.mem_cons_self, first, rfl⟩
    · obtain ⟨r, hr, hstep⟩ := ih h
      exact ⟨r, List.mem_cons_of_mem _ hr, hstep⟩

/-- A reference that lies before a search is tagged from a row of a reply. -/
theorem mem_hitsOn_steps {plan : List (Group × Query)} {r : Reference} (h : r ∈ hitsOn cache (steps session plan)) :
    ∃ e ∈ plan, ∃ row ∈ (session.reply e.2).rows, e.1.tag cache row = .ok (some r) := by
  obtain ⟨step, hstep, hhit⟩ := List.mem_filterMap.1 h
  obtain ⟨e, he, hstep⟩ := List.mem_flatMap.1 hstep
  rw [querySteps, List.mem_append, List.mem_cons] at hstep
  rcases hstep with (rfl | hrow) | hfailure
  · cases hhit
  · obtain ⟨row, hmem, first, rfl⟩ := mem_rowSteps hrow
    refine ⟨e, he, row, hmem, ?_⟩
    cases htag : e.1.tag cache row with
    | error error => simp [Step.hit?, htag, Except.toOption] at hhit
    | ok hit => simpa [Step.hit?, htag, Except.toOption] using hhit
  · cases hreply : (session.reply e.2).failure with
    | none => simp [hreply] at hfailure
    | some error =>
      rw [hreply] at hfailure
      obtain rfl : step = .failure error := by simpa using hfailure
      cases hhit

end Plan

/-- A search that can be run may return at least one reference. -/
theorem maxResults_pos {p : Params} (hp : p.validate = .ok ()) : 0 < p.maxResults.toNat := by
  rw [Nat.pos_iff_ne_zero]
  intro hzero
  have hp0 : p.maxResults = 0 := UInt64.toNat_inj.1 hzero
  unfold Params.validate at hp
  rw [if_pos hp0] at hp
  split at hp
  · cases hp
  · split at hp <;> cases hp

/-- A search gives what it has where its walk stops. -/
theorem search_eq_walk (session : Session) (cache : Cache) (fetchSize : UInt32) {p : Params}
    (hp : p.validate = .ok ()) :
    search cache session fetchSize p =
      stopped session cache
        (walk session cache p.maxResults.toNat []
          (steps session (p.plan session.dialect session.defaultSchema fetchSize))).1
        (walk session cache p.maxResults.toNat []
          (steps session (p.plan session.dialect session.defaultSchema fetchSize))).2 := by
  have hrun := runPlan_walk session cache (p.plan session.dialect session.defaultSchema fetchSize) []
    p.maxResults.toNat (maxResults_pos hp) (Nat.zero_add _)
  rw [Outcome.after_nil] at hrun
  rw [search_eq_runPlan session cache fetchSize hp, stopped, ← hrun]
  rfl

theorem search_of_invalid (session : Session) (cache : Cache) (fetchSize : UInt32) {p : Params} {e : ParamsError}
    (hp : p.validate = .error e) : search cache session fetchSize p = ⟨.error (.invalidParams e), [], 0⟩ := by
  rw [search, hp]

/-- A search with an answer has run its plan. -/
theorem runPlan_of_search {session : Session} {cache : Cache} {fetchSize : UInt32} {p : Params} {hits : List Reference}
    (h : (search cache session fetchSize p).result = .ok hits) :
    p.validate = .ok () ∧ (runPlan session cache p.maxResults.toNat 0
      (p.plan session.dialect session.defaultSchema fetchSize)).result = .ok hits := by
  cases hp : p.validate with
  | error e =>
    rw [search_of_invalid session cache fetchSize hp] at h
    cases h
  | ok =>
    refine ⟨rfl, ?_⟩
    simp only [search_eq_runPlan session cache fetchSize hp] at h
    cases hrun : (runPlan session cache p.maxResults.toNat 0
        (p.plan session.dialect session.defaultSchema fetchSize)).result with
    | error e =>
      rw [hrun] at h
      cases h
    | ok found =>
      rw [hrun] at h
      exact congrArg Except.ok (Except.ok.inj h)

/-- **A search stops at the first step that ends it, or behind the last one, and gives what it then has.** Nothing is
fetched or executed after that step, and never are there more references than may be returned. -/
theorem search_eq_stopped (session : Session) (cache : Cache) (fetchSize : UInt32) (p : Params)
    (hp : p.validate = .ok ()) :
    ∃ walked rest, steps session (p.plan session.dialect session.defaultSchema fetchSize) = walked ++ rest ∧
      (∀ prior step later, walked = prior ++ step :: later →
        step.ending? session cache p.maxResults.toNat prior = none) ∧
      (match rest with
        | [] => search cache session fetchSize p = stopped session cache walked none
        | step :: _ => ∃ ending, step.ending? session cache p.maxResults.toNat walked = some ending ∧
            search cache session fetchSize p = stopped session cache walked (some (step, ending))) ∧
      ∀ hits, (search cache session fetchSize p).result = .ok hits → hits.length ≤ p.maxResults.toNat := by
  have hroom := maxResults_pos hp
  have hsearch : ∀ walked stop, walk session cache p.maxResults.toNat []
      (steps session (p.plan session.dialect session.defaultSchema fetchSize)) = (walked, stop) →
      search cache session fetchSize p = stopped session cache walked stop := by
    intro walked stop hwalk
    rw [search_eq_walk session cache fetchSize hp, hwalk]
  obtain ⟨walked, rest, hsplit, hnone, hlength, hstop⟩ := walk_eq session cache p.maxResults.toNat []
    (steps session (p.plan session.dialect session.defaultSchema fetchSize)) hroom
  simp only [List.nil_append] at hnone hlength hstop
  refine ⟨walked, rest, hsplit, hnone, ?_, ?_⟩
  · cases rest with
    | nil => exact hsearch _ _ hstop
    | cons step rest =>
      obtain ⟨ending, hending, hwalk⟩ := hstop
      exact ⟨ending, hending, hsearch _ _ hwalk⟩
  · intro hits hresult
    cases rest with
    | nil =>
      rw [hsearch _ _ hstop] at hresult
      cases hresult
      omega
    | cons step rest =>
      obtain ⟨ending, -, hwalk⟩ := hstop
      rw [hsearch _ _ hwalk] at hresult
      cases ending with
      | cancelled =>
        cases hresult
        omega
      | full =>
        cases hresult
        have hone : (hitsOn cache [step]).length ≤ 1 := List.length_filterMap_le _ _
        rw [hitsOn_append, List.length_append]
        omega
      | failed e => cases hresult

/-! ## A search that stops early -/

/-- A session in which a row without columns follows the first one. -/
def raggedSession : Session where
  dataSource := "ragged"
  dialect := .sqlite
  defaultSchema := none
  cancelAfter := some 5
  reply _ := ⟨[⟨["TABSCHEMA", "TABNAME", "TYPE"], [some "S", some "T", some "T"]⟩, ⟨[], []⟩], some (.io "closed")⟩

/-- One schema without objects. -/
def bareCache : Cache := Cache.empty.insert { name := "S" }

/-- A search for the first table whose name begins with a letter. -/
def firstTable : Params where
  mask := "T"
  objectTypes := [.category .table]
  globalSearch := true
  maxResults := 1

/-- The walk stops when the first row is a hit, and does not meet the row without columns. -/
theorem search_ragged_eq_stopped :
    firstTable.validate = .ok () ∧
    (search bareCache raggedSession 10 firstTable).result = .ok [⟨"T", .schema "S", .table⟩] ∧
    ∃ walked rest, steps raggedSession (firstTable.plan .sqlite none 10) = walked ++ rest ∧
      (∀ prior step later, walked = prior ++ step :: later → step.ending? raggedSession bareCache 1 prior = none) ∧
      (match rest with
        | [] => search bareCache raggedSession 10 firstTable = stopped raggedSession bareCache walked none
        | step :: _ => ∃ ending, step.ending? raggedSession bareCache 1 walked = some ending ∧
            search bareCache raggedSession 10 firstTable =
              stopped raggedSession bareCache walked (some (step, ending))) ∧
      ∀ hits, (search bareCache raggedSession 10 firstTable).result = .ok hits → hits.length ≤ 1 :=
  ⟨rfl, rfl, search_eq_stopped raggedSession bareCache 10 firstTable rfl⟩

end CatalogFinder.Search
