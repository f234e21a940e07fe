import CatalogFinder.Proofs.Search.Walk

/-!
# Searches that stop earlier

A search may return fewer references than another one, or be cancelled sooner, and otherwise be the same. Then its walk
leads along the same steps up to where it stops, and the other one stops there too or goes on. So it gives the first of
the references that the other one gives, and it never fails where the other one does not.

* `Earlier` : the walks of one session and limit end no later than those of another one;
* `GoesOn`, `walk_goesOn` : where the one walk stops, and where the other one then does;
* `SearchRun.Shortens` : what the one run is to the other one;
* `search_shortens` : smaller limits and earlier cancellations only shorten a search.
-/

namespace CatalogFinder

/-- What a run is to one that may go on where it stops: it has the first of its references, it has put the first of its
queries, it has fetched no more rows, and it has no error that the other one has not. -/
structure SearchRun.Shortens (short long : SearchRun) : Prop where
  ok : ∀ hits, long.result = .ok hits → ∃ first, short.result = .ok first ∧ first <+: hits
  error : ∀ e, short.result = .error e → long.result = .error e
  events : short.events <+: long.events
  fetched : short.fetched ≤ long.fetched

theorem SearchRun.Shortens.refl (run : SearchRun) : run.Shortens run :=
  ⟨fun hits h => ⟨hits, h, List.prefix_rfl⟩, fun _ h => h, List.prefix_rfl, Nat.le_refl _⟩

namespace Search

/-! ## Where the walks end -/

/-- In the one session the cancellation shows no later than in the other one, and the one limit is no larger. -/
structure Earlier (short long : Session) (k m : Nat) : Prop where
  cancelled : ∀ fetched, long.cancelled fetched = true → short.cancelled fetched = true
  limit : k ≤ m

/-- Why the one walk ends at a step at which the other one need not end: the cancellation shows in the one session
only, or the references that have been found are as many as the one limit. -/
inductive Premature (short long : Session) (cache : Cache) (k : Nat) (walked : List Step) (step : Step) : Ending → Prop
  | cancelled {fetched : Nat} (hshort : short.cancelled fetched = true) (hlong : long.cancelled fetched = false) :
      Premature short long cache k walked step .cancelled
  | full (h : (hitsOn cache (walked ++ [step])).length = k) : Premature short long cache k walked step .full

/-- Where the one walk stops, and where the other one stops then. -/
inductive GoesOn (short long : Session) (cache : Cache) (k : Nat) :
    List Step × Option (Step × Ending) → List Step × Option (Step × Ending) → Prop
  | same {walked : List Step} {stop : Option (Step × Ending)} (hlt : (hitsOn cache walked).length < k) :
      GoesOn short long cache k (walked, stop) (walked, stop)
  | here {walked : List Step} {step : Step} (ending : Ending)
      (h : Premature short long cache k walked step .cancelled) :
      GoesOn short long cache k (walked, some (step, .cancelled)) (walked, some (step, ending))
  | past {walked : List Step} {step : Step} {ending : Ending} (more : List Step) (stop : Option (Step × Ending))
      (h : Premature short long cache k walked step ending) :
      GoesOn short long cache k (walked, some (step, ending)) (walked ++ step :: more, stop)

section Walks
variable {short long : Session} {cache : Cache} {k m : Nat} {walked : List Step} {step : Step}

theorem Earlier.not_cancelled (h : Earlier short long k m) {fetched : Nat} (hshort : ¬ short.cancelled fetched = true) :
    ¬ long.cancelled fetched = true := fun hlong => hshort (h.cancelled fetched hlong)

/-- How a row ends a walk if it is read: by its error, or as the last one that there is room for. -/
theorem ending?_row (session : Session) (limit : Nat) {g : Group} {first : Bool} {r : Row}
    (h : ¬ session.cancelled (fetchedOn walked + 1) = true) :
    (Step.row g first r).ending? session cache limit walked =
      match (Step.row g first r).error? cache with
      | some e => some (.failed e)
      | none =>
        if ((Step.row g first r).hit? cache).isSome ∧ (hitsOn cache walked).length + 1 = limit then some .full
        else none := by
  rw [Step.ending?, if_neg h]
  cases (Step.row g first r).error? cache with
  | some e => rfl
  | none => cases (Step.row g first r).hit? cache <;> simp

/-- How a step ends the longer walk if it ends the shorter one: in the same way, unless it ends this one prematurely. -/
def EndsAlike (short long : Session) (cache : Cache) (k m : Nat) (walked : List Step) (step : Step) : Prop :=
  step.ending? long cache m walked = step.ending? short cache k walked ∨
    ∃ ending, step.ending? short cache k walked = some ending ∧ Premature short long cache k walked step ending ∧
      (ending = .full → step.ending? long cache m walked = none)

theorem EndsAlike.of_cancelled {fetched : Nat} (hshort : short.cancelled fetched = true)
    (hending : ∀ session limit, session.cancelled fetched = true →
      step.ending? session cache limit walked = some .cancelled) : EndsAlike short long cache k m walked step := by
  by_cases hlong : long.cancelled fetched = true
  · exact .inl ((hending long m hlong).trans (hending short k hshort).symm)
  · refine .inr ⟨.cancelled, hending short k hshort, ?_, fun hfull => by cases hfull⟩
    exact .cancelled hshort (by simpa using hlong)

theorem Earlier.endsAlike (h : Earlier short long k m) (hlt : (hitsOn cache walked).length < k) :
    EndsAlike short long cache k m walked step := by
  have hlimit := h.limit
  cases step with
  | failure e => exact .inl rfl
  | start q =>
    by_cases hshort : short.cancelled (fetchedOn walked) = true
    · exact .of_cancelled hshort fun session limit hcancelled => by rw [Step.ending?, if_pos hcancelled]
    · exact .inl (by rw [Step.ending?, Step.ending?, if_neg hshort, if_neg (h.not_cancelled hshort)])
  | row g first r =>
    by_cases hshort : short.cancelled (fetchedOn walked + 1) = true
    · exact .of_cancelled hshort fun session limit hcancelled => by rw [Step.ending?, if_pos hcancelled]
    · unfold EndsAlike
      rw [ending?_row short k hshort, ending?_row long m (h.not_cancelled hshort)]
      cases herror : (Step.row g first r).error? cache with
      | some e => exact .inl rfl
      | none =>
        -- the row is read in both walks; it may be the last one that the smaller limit has room for
        by_cases hfull : ((Step.row g first r).hit? cache).isSome ∧ (hitsOn cache walked).length + 1 = k
        · obtain ⟨hit, hhit⟩ := Option.isSome_iff_exists.1 hfull.1
          have hone : hitsOn cache [Step.row g first r] = [hit] := by simp [hitsOn, hhit]
          by_cases hkm : k = m
          · exact .inl (by rw [hkm])
          · refine .inr ⟨.full, if_pos hfull, .full ?_, fun _ => if_neg (by omega)⟩
            rw [hitsOn_append, hone, List.length_append, List.length_singleton]
            exact hfull.2
        · refine .inl ?_
          simp only
          rw [if_neg hfull, if_neg (fun hm => hfull ⟨hm.1, by omega⟩)]

/-- A walk goes on from where it is. -/
theorem exists_walked (session : Session) (cache : Cache) (limit : Nat) (walked path : List Step) :
    ∃ more, (walk session cache limit walked path).1 = walked ++ more := by
  induction path generalizing walked with
  | nil => exact ⟨[], by simp [walk]⟩
  | cons step path ih =>
    cases h : step.ending? session cache limit walked with
    | some ending => exact ⟨[], by rw [walk_of_some path h, List.append_nil]⟩
    | none =>
      obtain ⟨more, hmore⟩ := ih (walked ++ [step])
      exact ⟨step :: more, by rw [walk_of_none path h, hmore, List.append_assoc, List.singleton_append]⟩

/-- **Where the shorter walk stops the longer one stops too, or goes on.** -/
theorem walk_goesOn (h : Earlier short long k m) (cache : Cache) (walked path : List Step)
    (hlt : (hitsOn cache walked).length < k) :
    GoesOn short long cache k (walk short cache k walked path) (walk long cache m walked path) := by
  -- the invariant is that there is room for one more reference within the smaller limit
  induction path generalizing walked with
  | nil => exact .same hlt
  | cons step path ih =>
    have halike : EndsAlike short long cache k m walked step := h.endsAlike hlt
    rcases halike with hsame | ⟨ending, hshort, hpremature, hfull⟩
    · cases hshort : step.ending? short cache k walked with
      | some ending =>
        rw [walk_of_some path hshort, walk_of_some path (hsame.trans hshort)]
        exact .same hlt
      | none =>
        rw [walk_of_none path hshort, walk_of_none path (hsame.trans hshort)]
        exact ih _ (length_hitsOn_lt hlt hshort)
    · rw [walk_of_some path hshort]
      cases hlong : step.ending? long cache m walked with
      | none =>
        rw [walk_of_none path hlong]
        obtain ⟨more, hmore⟩ := exists_walked long cache m (walked ++ [step]) path
        have hpast := GoesOn.past more (walk long cache m (walked ++ [step]) path).2 hpremature
        rwa [← List.singleton_append, ← List.append_assoc, ← hmore] at hpast
      | some ending' =>
        rw [walk_of_some path hlong]
        cases hpremature with
        | cancelled hs hl => exact .here ending' (.cancelled hs hl)
        | full =>
          rw [hfull rfl] at hlong
          cases hlong

end Walks

/-! ## What the searches give -/

section Stopped
variable (session : Session) (cache : Cache) (walked : List Step) (stop : Option (Step × Ending))

theorem events_stopped : (stopped session cache walked stop).events = (queriesOn walked).map .executed := by
  rcases stop with _ | ⟨step, _ | _ | e⟩ <;> rfl

/-- A search has fetched the row that it has stopped at. -/
theorem fetched_stopped_some (step : Step) (ending : Ending) :
    (stopped session cache walked (some (step, ending))).fetched = fetchedOn (walked ++ [step]) := by
  cases ending <;> rfl

theorem fetchedOn_le_stopped : fetchedOn walked ≤ (stopped session cache walked stop).fetched := by
  cases stop with
  | none => exact Nat.le_refl _
  | some stop =>
    rw [fetched_stopped_some, fetchedOn_append]
    exact Nat.le_add_right _ _

variable {session cache walked stop}

/-- What has been found on the way is returned first. -/
theorem prefix_of_stopped {hits : List Reference} (h : (stopped session cache walked stop).result = .ok hits) :
    hitsOn cache walked <+: hits := by
  rcases stop with _ | ⟨step, _ | _ | e⟩
  case none => cases h; exact List.prefix_rfl
  case some.cancelled => cases h; exact List.prefix_rfl
  case some.full =>
    cases h
    rw [hitsOn_append]
    exact List.prefix_append _ _
  case some.failed => cases h

/-- Also what a step has given that has been left behind. -/
theorem prefix_of_stopped_past {step : Step} {more : List Step} {hits : List Reference}
    (h : (stopped session cache (walked ++ step :: more) stop).result = .ok hits) :
    hitsOn cache (walked ++ [step]) <+: hits := by
  have hprefix := prefix_of_stopped h
  rw [List.append_cons, hitsOn_append _ _ more] at hprefix
  exact (List.prefix_append _ _).trans hprefix

/-- A search that had room for one more reference gives no more of them than it may. -/
theorem length_of_stopped {hits : List Reference} {k : Nat} (hlt : (hitsOn cache walked).length < k)
    (h : (stopped session cache walked stop).result = .ok hits) : hits.length ≤ k := by
  rcases stop with _ | ⟨step, _ | _ | e⟩
  case none => cases h; exact Nat.le_of_lt hlt
  case some.cancelled => cases h; exact Nat.le_of_lt hlt
  case some.full =>
    cases h
    have hone : (hitsOn cache [step]).length ≤ 1 := List.length_filterMap_le _ _
    rw [hitsOn_append, List.length_append]
    omega
  case some.failed => cases h

end Stopped

section Shortens
variable {short long : Session} {cache : Cache} {k : Nat}

/-- What has been found when a walk stops prematurely, if it is an answer at all. -/
theorem Premature.result {walked : List Step} {step : Step} {ending : Ending}
    (h : Premature short long cache k walked step ending) :
    ∃ first, (stopped short cache walked (some (step, ending))).result = .ok first ∧
      first <+: hitsOn cache (walked ++ [step]) := by
  cases h with
  | cancelled =>
    refine ⟨hitsOn cache walked, rfl, ?_⟩
    rw [hitsOn_append]
    exact List.prefix_append _ _
  | full => exact ⟨_, rfl, List.prefix_rfl⟩

/-- The search that stops first shortens the other one. -/
theorem GoesOn.shortens (hsource : short.dataSource = long.dataSource)
    {stop stop' : List Step × Option (Step × Ending)} (h : GoesOn short long cache k stop stop') :
    (stopped short cache stop.1 stop.2).Shortens (stopped long cache stop'.1 stop'.2) := by
  cases h with
  | @same walked stop hlt =>
    have heq : stopped short cache walked stop = stopped long cache walked stop := by
      unfold stopped
      rw [hsource]
    rw [heq]
    exact .refl _
  | @here walked step ending hpremature =>
    have hevents : (stopped short cache walked (some (step, .cancelled))).events =
        (stopped long cache walked (some (step, ending))).events := by rw [events_stopped, events_stopped]
    have hfetched : (stopped short cache walked (some (step, .cancelled))).fetched =
        (stopped long cache walked (some (step, ending))).fetched := by
      rw [fetched_stopped_some, fetched_stopped_some]
    exact ⟨fun hits hhits => ⟨_, rfl, prefix_of_stopped hhits⟩, fun e he => (by cases he),
      ⟨[], (List.append_nil _).trans hevents⟩, Nat.le_of_eq hfetched⟩
  | @past walked step ending more stop' hpremature =>
    obtain ⟨first, hfirst, hprefix⟩ := hpremature.result
    refine ⟨fun hits hhits => ⟨first, hfirst, hprefix.trans (prefix_of_stopped_past hhits)⟩, fun e he => ?_, ?_, ?_⟩
    · rw [hfirst] at he
      cases he
    · rw [events_stopped, events_stopped, queriesOn_append]
      exact (List.prefix_append _ _).map _
    · refine Nat.le_trans ?_ (fetchedOn_le_stopped long cache _ stop')
      simp only [fetched_stopped_some]
      rw [List.append_cons walked step more, fetchedOn_append _ more]
      exact Nat.le_add_right _ _

/-- In one session the smaller limit cuts the references off behind as many of them. -/
theorem GoesOn.take {session : Session} {stop stop' : List Step × Option (Step × Ending)} {hits : List Reference}
    (h : GoesOn session session cache k stop stop') (hhits : (stopped session cache stop'.1 stop'.2).result = .ok hits) :
    (stopped session cache stop.1 stop.2).result = .ok (hits.take k) := by
  cases h with
  | same hlt => rw [List.take_of_length_le (length_of_stopped hlt hhits), hhits]
  | here ending hpremature =>
    obtain ⟨hshort, hlong⟩ := hpremature
    rw [hshort] at hlong
    cases hlong
  | @past walked step ending more stop' hpremature =>
    cases hpremature with
    | cancelled hshort hlong =>
      rw [hshort] at hlong
      cases hlong
    | full hlength =>
      have htake := List.prefix_iff_eq_take.1 (prefix_of_stopped_past hhits)
      rw [hlength] at htake
      rw [← htake]
      rfl

end Shortens

/-- A limit that is not zero is as good as another one. -/
theorem validate_maxResults {p : Params} {k : UInt64} (hk : 0 < k) (hle : k ≤ p.maxResults) :
    { p with maxResults := k }.validate = p.validate := by
  have hk0 : k ≠ 0 := (UInt64.ne_of_lt hk).symm
  have hp0 : p.maxResults ≠ 0 := (UInt64.ne_of_lt (UInt64.lt_of_lt_of_le hk hle)).symm
  simp only [Params.validate, hk0, hp0, if_false]

/-- **A smaller limit or an earlier cancellation only shortens a search.** With the smaller limit it gives as many of
the first references as the limit says. -/
theorem search_shortens (cache : Cache) (session : Session) (fetchSize : UInt32) (p : Params) :
    (∀ k, 0 < k → k ≤ p.maxResults →
      (search cache session fetchSize { p with maxResults := k }).Shortens (search cache session fetchSize p) ∧
      ∀ hits, (search cache session fetchSize p).result = .ok hits →
        (search cache session fetchSize { p with maxResults := k }).result = .ok (hits.take k.toNat)) ∧
    ∀ (n : Nat) (n' : Option Nat), (∀ later, n' = some later → n ≤ later) →
      (search cache { session with cancelAfter := some n } fetchSize p).Shortens
        (search cache { session with cancelAfter := n' } fetchSize p) := by
  refine ⟨fun k hk hle => ?_, fun n n' hn => ?_⟩
  · cases hp : p.validate with
    | error e =>
      rw [search_of_invalid _ _ _ hp, search_of_invalid _ _ _ ((validate_maxResults hk hle).trans hp)]
      exact ⟨.refl _, fun hits hhits => by cases hhits⟩
    | ok =>
      rw [search_eq_walk _ _ _ hp, search_eq_walk _ _ _ ((validate_maxResults hk hle).trans hp)]
      have hlimit : k.toNat ≤ p.maxResults.toNat := UInt64.le_iff_toNat_le.1 hle
      have hroom : 0 < k.toNat := UInt64.lt_iff_toNat_lt.1 hk
      have hearlier : Earlier session session k.toNat p.maxResults.toNat := ⟨fun _ h => h, hlimit⟩
      have hwalks := walk_goesOn hearlier cache []
        (steps session (p.plan session.dialect session.defaultSchema fetchSize)) hroom
      exact ⟨hwalks.shortens rfl, fun hits hhits => hwalks.take hhits⟩
  · cases hp : p.validate with
    | error e =>
      rw [search_of_invalid _ _ _ hp, search_of_invalid _ _ _ hp]
      exact .refl _
    | ok =>
      rw [search_eq_walk _ _ _ hp, search_eq_walk _ _ _ hp]
      have hearlier : Earlier { session with cancelAfter := some n } { session with cancelAfter := n' }
          p.maxResults.toNat p.maxResults.toNat := by
        refine ⟨fun fetched hlong => ?_, Nat.le_refl _⟩
        cases n' with
        | none => cases hlong
        | some later =>
          have hfetched : later ≤ fetched := of_decide_eq_true hlong
          exact decide_eq_true (Nat.le_trans (hn later rfl) hfetched)
      have hwalks := walk_goesOn hearlier cache []
        (steps session (p.plan session.dialect session.defaultSchema fetchSize)) (maxResults_pos hp)
      refine hwalks.shortens ?_
      rfl

/-! ## A session that breaks off -/

/-- A session that knows three tables and then fails. -/
def brokenSession : Session where
  dataSource := "broken"
  dialect := .sqlite
  defaultSchema := none
  cancelAfter := none
  reply _ :=
    ⟨["T", "U", "V"].map fun name => ⟨["TABSCHEMA", "TABNAME", "TYPE"], [some "S", some name, some "T"]⟩,
      some (.io "closed")⟩

/-- A search for as many tables as the session knows. -/
def threeTables : Params where
  mask := "%"
  objectTypes := [.category .table]
  globalSearch := true
  maxResults := 3

theorem search_brokenSession_shortens :
    ((0 : UInt64) < 2 ∧ (2 : UInt64) ≤ threeTables.maxResults ∧
      (search bareCache brokenSession 10 { threeTables with maxResults := 2 }).Shortens
        (search bareCache brokenSession 10 threeTables) ∧
      (search bareCache brokenSession 10 { threeTables with maxResults := 2 }).result =
        .ok [⟨"T", .schema "S", .table⟩, ⟨"U", .schema "S", .table⟩]) ∧
    (∀ later, some 2 = some later → 1 ≤ later) ∧
      (search bareCache { brokenSession with cancelAfter := some 1 } 10 threeTables).Shortens
        (search bareCache { brokenSession with cancelAfter := some 2 } 10 threeTables) := by
  obtain ⟨hlimits, hcancellations⟩ := search_shortens bareCache brokenSession 10 threeTables
  have hk : (0 : UInt64) < 2 := by decide
  have hle : (2 : UInt64) ≤ threeTables.maxResults := by decide
  have hn : ∀ later, some 2 = some later → 1 ≤ later := by
    intro later h
    cases h
    decide
  obtain ⟨hshortens, htake⟩ := hlimits 2 hk hle
  exact ⟨⟨hk, hle, hshortens, htake _ rfl⟩, hn, hcancellations 1 (some 2) hn⟩

end Search

end CatalogFinder
