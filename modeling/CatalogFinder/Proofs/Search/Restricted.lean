import CatalogFinder.Proofs.Catalog.Restricted
import CatalogFinder.Proofs.Search.Shortened
import CatalogFinder.Tables.Hosted
import Mathlib.Algebra.GroupWithZero.Nat

/-!
# Searching with fewer schemas

Which schemas a cache knows decides which rows give references, and nothing else: a row of another schema is read like
any other, with the same errors, and gives none. So a search with a part of a cache meets the same steps as one with all
of it, and finds those references whose container lies in the part.

The two searches do not stop at one place. What has filled the one need not fill the other, which then goes on to an
error that the one has not seen.

* `Group.tag_restrict`, `hitsOn_restrict` : the references that are left;
* `cutOff`, `result_of_never` : what a search gives that is never cancelled;
* `search_restrict` : the hits with a part of a cache, from those with all of it.
-/

namespace CatalogFinder

/-- The container of the reference lies in a schema that is kept. -/
def Reference.isKept (keeps : String → Bool) (r : Reference) : Bool := keeps r.container.schemaName

theorem Reference.filter_isKept {keeps : String → Bool} {schema : String} {found : Option Reference}
    (h : ∀ r, found = some r → r.container.schemaName = schema) :
    found.filter (·.isKept keeps) = if keeps schema then found else none := by
  cases found with
  | none => cases keeps schema <;> rfl
  | some r =>
    show (if keeps r.container.schemaName then some r else none) = _
    rw [h r rfl]

/-! ## Rows -/

section Rows
variable (cache : Cache) (keeps : String → Bool) (row : Row)

namespace Group

theorem tagRelation_restrict : tagRelation (cache.restrict keeps) row =
    (tagRelation cache row).map (Option.filter (·.isKept keeps)) := by
  unfold tagRelation
  cases row.requireTrimmed "TABSCHEMA" with
  | error e => rfl
  | ok schema =>
    cases row.require "TABNAME" with
    | error e => rfl
    | ok name =>
      cases row.require "TYPE" with
      | error e => rfl
      | ok code =>
        simp only [bind, Except.bind, pure, Except.pure, Cache.schema?_restrict]
        generalize TypeCodes.standard.categoryFor? code = category?
        cases category? with
        | none => rfl
        | some category =>
          cases cache.schema? schema with
          | none => cases keeps schema <;> rfl
          | some kept =>
            have hkept : (some (Reference.mk name (.schema schema) category)).filter (·.isKept keeps) =
                if keeps schema then some ⟨name, .schema schema, category⟩ else none :=
              Reference.filter_isKept fun r h => by cases h; rfl
            simp only [Except.map, hkept]
            cases keeps schema <;> rfl

theorem schemaName_of_ownerContainer? {cache : Cache} {schema owner : String} {container : Container}
    (h : ownerContainer? cache schema owner = some container) : container.schemaName = schema := by
  obtain ⟨kept, -, h⟩ := Option.bind_eq_some_iff.1 h
  split at h
  · cases h
    rfl
  · split at h
    · cases h
      rfl
    · cases h

theorem tagColumn_restrict : tagColumn (cache.restrict keeps) row =
    (tagColumn cache row).map (Option.filter (·.isKept keeps)) := by
  unfold tagColumn
  cases row.requireTrimmed "TABSCHEMA" with
  | error e => rfl
  | ok schema =>
    cases row.require "TABNAME" with
    | error e => rfl
    | ok owner =>
      cases row.require "COLNAME" with
      | error e => rfl
      | ok column =>
        have hschema : ∀ r, (ownerContainer? cache schema owner).map (Reference.mk column · .column) = some r →
            r.container.schemaName = schema := by
          intro r h
          obtain ⟨container, hcontainer, rfl⟩ := Option.map_eq_some_iff.1 h
          exact schemaName_of_ownerContainer? hcontainer
        simp only [bind, Except.bind, pure, Except.pure, Except.map, Reference.filter_isKept hschema]
        unfold ownerContainer?
        rw [Cache.schema?_restrict]
        cases keeps schema <;> rfl

theorem tagRoutine_restrict : tagRoutine (cache.restrict keeps) row =
    (tagRoutine cache row).map (Option.filter (·.isKept keeps)) := by
  unfold tagRoutine
  cases row.requireTrimmed "ROUTINESCHEMA" with
  | error e => rfl
  | ok schema =>
    cases row.require "ROUTINENAME" with
    | error e => rfl
    | ok name =>
      have hschema : ∀ r, (cache.schema? schema).map (fun _ => Reference.mk name (.schema schema) .routine) = some r →
          r.container.schemaName = schema := by
        intro r h
        obtain ⟨kept, -, rfl⟩ := Option.map_eq_some_iff.1 h
        rfl
      simp only [bind, Except.bind, pure, Except.pure, Except.map, Reference.filter_isKept hschema,
        Cache.schema?_restrict]
      cases keeps schema <;> rfl

/-- A row is tagged with a part of a cache as with all of it, if its schema is kept, and with nothing otherwise. -/
theorem tag_restrict (g : Group) :
    g.tag (cache.restrict keeps) row = (g.tag cache row).map (Option.filter (·.isKept keeps)) := by
  cases g with
  | tableLike => exact tagRelation_restrict cache keeps row
  | columns => exact tagColumn_restrict cache keeps row
  | routines => exact tagRoutine_restrict cache keeps row

end Group

end Rows

namespace Search

/-! ## Steps -/

section Steps
variable (cache : Cache) (keeps : String → Bool)

/-- Errors do not depend on which schemas are kept. -/
theorem Step.error?_restrict (step : Step) : step.error? (cache.restrict keeps) = step.error? cache := by
  cases step with
  | start q => rfl
  | failure e => rfl
  | row g first r =>
    simp only [Step.error?, Group.tag_restrict]
    cases g.tag cache r <;> rfl

theorem Step.hit?_restrict (step : Step) :
    step.hit? (cache.restrict keeps) = (step.hit? cache).filter (·.isKept keeps) := by
  cases step with
  | start q => rfl
  | failure e => rfl
  | row g first r =>
    simp only [Step.hit?, Group.tag_restrict]
    cases g.tag cache r <;> rfl

theorem hitsOn_restrict (walked : List Step) :
    hitsOn (cache.restrict keeps) walked = (hitsOn cache walked).filter (·.isKept keeps) := by
  unfold hitsOn
  rw [List.filter_filterMap]
  exact congrArg (walked.filterMap ·) (funext (Step.hit?_restrict cache keeps))

end Steps

/-! ## Searches that are never cancelled -/

/-- The steps in front of the first one that is an error. -/
def readable (cache : Cache) (path : List Step) : List Step := path.takeWhile fun step => (step.error? cache).isNone

/-- What comes of references and of the error behind them, if there is one, when no more than so many are returned: the
error counts unless the limit is reached in front of it. -/
def cutOff (limit : Nat) (hits : List Reference) (error? : Option SessionError) :
    Except SessionError (List Reference) :=
  match error? with
  | some e => if limit ≤ hits.length then .ok (hits.take limit) else .error e
  | none => .ok (hits.take limit)

theorem cutOff_of_le {limit : Nat} {hits : List Reference} (h : limit ≤ hits.length) (error? : Option SessionError) :
    cutOff limit hits error? = .ok (hits.take limit) := by
  cases error? with
  | none => rfl
  | some e => exact if_pos h

section Never
variable {session : Session} {cache : Cache} {limit : Nat}

theorem readable_of_error {step : Step} {e : SessionError} (h : step.error? cache = some e) (path : List Step) :
    readable cache (step :: path) = [] := by
  rw [readable, List.takeWhile_cons_of_neg (by simp [h])]

theorem readable_of_none {step : Step} (h : step.error? cache = none) (path : List Step) :
    readable cache (step :: path) = step :: readable cache path := by
  rw [readable, List.takeWhile_cons_of_pos (by simp [h])]
  rfl

/-- Only an error or the last reference that there is room for ends a walk that is never cancelled. -/
theorem ending?_of_never (hnever : session.cancelAfter = none) (cache : Cache) (limit : Nat) (walked : List Step)
    (step : Step) :
    step.ending? session cache limit walked =
      match step.error? cache with
      | some e => some (.failed e)
      | none => if (step.hit? cache).isSome ∧ (hitsOn cache walked).length + 1 = limit then some .full else none := by
  have hcancelled : ∀ fetched, ¬ session.cancelled fetched = true := by
    intro fetched
    simp [Session.cancelled, hnever]
  cases step with
  | start q =>
    rw [Step.ending?, if_neg (hcancelled _)]
    simp [Step.error?, Step.hit?]
  | failure e => rfl
  | row g first r => exact ending?_row session limit (hcancelled _)

/-- **A walk that is never cancelled gives what lies in front of the first error, cut off at the limit.** -/
theorem walk_of_never (hnever : session.cancelAfter = none) (walked path : List Step)
    (hlt : (hitsOn cache walked).length < limit) :
    (outcomeOf cache (walk session cache limit walked path).1 (walk session cache limit walked path).2).result =
      cutOff limit (hitsOn cache (walked ++ readable cache path)) (path.findSome? (Step.error? cache)) := by
  -- the invariant is that there is room for one more reference
  induction path generalizing walked with
  | nil =>
    show Except.ok (hitsOn cache walked) = .ok ((hitsOn cache (walked ++ [])).take limit)
    rw [List.append_nil, List.take_of_length_le (Nat.le_of_lt hlt)]
  | cons step path ih =>
    have hending := ending?_of_never hnever cache limit walked step
    cases herror : step.error? cache with
    | some e =>
      rw [herror] at hending
      rw [walk_of_some path hending, readable_of_error herror, List.append_nil,
        List.findSome?_cons_of_isSome (by simp [herror]), herror]
      exact (if_neg (Nat.not_le.2 hlt)).symm
    | none =>
      rw [herror] at hending
      rw [readable_of_none herror, List.findSome?_cons_of_isNone (by simp [herror]), List.append_cons]
      by_cases hfull : (step.hit? cache).isSome ∧ (hitsOn cache walked).length + 1 = limit
      · obtain ⟨hit, hhit⟩ := Option.isSome_iff_exists.1 hfull.1
        have hlength : (hitsOn cache (walked ++ [step])).length = limit := by
          have hone : hitsOn cache [step] = [hit] := by simp [hitsOn, hhit]
          rw [hitsOn_append, hone, List.length_append]
          exact hfull.2
        have hle : limit ≤ (hitsOn cache (walked ++ [step]) ++ hitsOn cache (readable cache path)).length := by
          rw [List.length_append]
          omega
        rw [walk_of_some path (hending.trans (if_pos hfull)), hitsOn_append _ _ (readable cache path), cutOff_of_le hle,
          List.take_append_of_le_length (Nat.le_of_eq hlength.symm), List.take_of_length_le (Nat.le_of_eq hlength)]
        rfl
      · have hnone : step.ending? session cache limit walked = none := hending.trans (if_neg hfull)
        rw [walk_of_none path hnone]
        exact ih _ (length_hitsOn_lt hlt hnone)

end Never

/-! ## Served rows -/

/-- How many rows there are in the replies to a plan. -/
def servedRows (session : Session) (planned : List (Group × Query)) : Nat :=
  (planned.map fun e => (session.reply e.2).rows.length).sum

/-- The error of the first reply to a plan that ends with one. -/
def failure? (session : Session) (planned : List (Group × Query)) : Option SessionError :=
  planned.findSome? fun e => (session.reply e.2).failure

section Served
variable {session : Session} {cache : Cache}

theorem fetchedOn_cons (step : Step) (path : List Step) :
    fetchedOn (step :: path) = fetchedOn [step] + fetchedOn path :=
  fetchedOn_append [step] path

theorem fetchedOn_steps (session : Session) (planned : List (Group × Query)) :
    fetchedOn (steps session planned) = servedRows session planned := by
  induction planned with
  | nil => rfl
  | cons e planned ih =>
    have hfailure : fetchedOn ((session.reply e.2).failure.map Step.failure).toList = 0 := by
      cases (session.reply e.2).failure <;> rfl
    have hrows : fetchedOn (.start e.2 :: rowSteps e.1 true (session.reply e.2).rows) =
        (session.reply e.2).rows.length := fetchedOn_rowSteps e.1 true (session.reply e.2).rows
    show fetchedOn (querySteps session e.1 e.2 ++ steps session planned) = _
    rw [querySteps, fetchedOn_append, fetchedOn_append, hrows, hfailure, ih]
    exact List.sum_cons.symm

/-- Each reference comes from a row of its own. -/
theorem length_hitsOn_le (cache : Cache) (walked : List Step) : (hitsOn cache walked).length ≤ fetchedOn walked := by
  induction walked with
  | nil => exact Nat.le_refl _
  | cons step walked ih =>
    rw [← List.singleton_append, hitsOn_append, List.singleton_append, fetchedOn_cons, List.length_append]
    refine Nat.add_le_add ?_ ih
    cases step with
    | start q => exact Nat.le_refl _
    | failure e => exact Nat.le_refl _
    | row g first r => exact List.length_filterMap_le _ _

theorem fetchedOn_readable_le (cache : Cache) (path : List Step) : fetchedOn (readable cache path) ≤ fetchedOn path :=
  (List.takeWhile_sublist _).countP_le

/-- The error that ends a reply. -/
def Step.failure? : Step → Option SessionError
  | failure e => some e
  | _ => none

/-- Where all rows can be read, the first error is that of a reply. -/
theorem findSome?_error (path : List Step) (h : fetchedOn path ≤ fetchedOn (readable cache path)) :
    path.findSome? (Step.error? cache) = path.findSome? Step.failure? := by
  induction path with
  | nil => rfl
  | cons step path ih =>
    cases herror : step.error? cache with
    | some e =>
      rw [readable_of_error herror] at h
      cases step with
      | start q => cases herror
      | failure e => rfl
      | row g first r =>
        rw [fetchedOn_cons] at h
        exact absurd (Nat.le_trans (Nat.le_add_right _ _) h) (Nat.not_succ_le_zero 0)
    | none =>
      have hfailure : step.failure? = none := by
        cases step with
        | failure e => cases herror
        | start q => rfl
        | row g first r => rfl
      rw [readable_of_none herror, fetchedOn_cons, fetchedOn_cons step (readable cache path)] at h
      rw [List.findSome?_cons_of_isNone (by simp [herror]), List.findSome?_cons_of_isNone (by simp [hfailure])]
      exact ih (Nat.le_of_add_le_add_left h)

theorem findSome?_failure (session : Session) (planned : List (Group × Query)) :
    (steps session planned).findSome? Step.failure? = failure? session planned := by
  induction planned with
  | nil => rfl
  | cons e planned ih =>
    have hrows : (rowSteps e.1 true (session.reply e.2).rows).findSome? Step.failure? = none := by
      refine List.findSome?_eq_none_iff.2 fun step hstep => ?_
      obtain ⟨row, -, first, rfl⟩ := mem_rowSteps hstep
      rfl
    show (querySteps session e.1 e.2 ++ steps session planned).findSome? _ = _
    rw [querySteps, List.findSome?_append, List.findSome?_append, List.findSome?_cons, hrows, ih, failure?, failure?,
      List.findSome?_cons]
    cases (session.reply e.2).failure <;> simp [Step.failure?]

end Served

/-! ## Both searches -/

section Both
variable {session : Session} {p : Params} {limit : Nat} {hits : List Reference}

/-- A limit that is not zero is as good as another one. -/
theorem validate_of_limit (hp : p.validate = .ok ()) {m : UInt64} (hm : m ≠ 0) :
    { p with maxResults := m }.validate = .ok () := by
  have hp0 : p.maxResults ≠ 0 := fun hzero => absurd (maxResults_pos hp) (by simp [hzero])
  rw [← hp]
  simp only [Params.validate, hm, hp0, if_false]

/-- A search that is never cancelled gives what lies in front of the first error, cut off at its limit. -/
theorem result_of_never (hnever : session.cancelAfter = none) (cache : Cache) (fetchSize : UInt32)
    (hp : p.validate = .ok ()) :
    (search cache session fetchSize p).result =
      (cutOff p.maxResults.toNat
        (hitsOn cache (readable cache (steps session (p.plan session.dialect session.defaultSchema fetchSize))))
        ((steps session (p.plan session.dialect session.defaultSchema fetchSize)).findSome?
          (Step.error? cache))).mapError (.dataAccess session.dataSource) := by
  rw [search_eq_walk session cache fetchSize hp]
  exact congrArg (Except.mapError _) (walk_of_never hnever [] _ (maxResults_pos hp))

theorem eq_ok_of_mapError {ε ε' α : Type} {f : ε → ε'} {result : Except ε α} {a : α} (h : result.mapError f = .ok a) :
    result = .ok a := by
  cases result with
  | error e => cases h
  | ok b => exact congrArg Except.ok (Except.ok.inj h)

/-- What comes of references that are no more than the limit is all of them, if it is not the error. -/
theorem of_cutOff_eq_ok {found : List Reference} {error? : Option SessionError} (hle : found.length ≤ limit)
    (h : cutOff limit found error? = .ok hits) : found = hits ∧ ∀ e, error? = some e → hits.length = limit := by
  have htake : found.take limit = found := List.take_of_length_le hle
  cases error? with
  | none => exact ⟨htake.symm.trans (Except.ok.inj h), fun e he => by cases he⟩
  | some e =>
    by_cases hfull : limit ≤ found.length
    · rw [cutOff, if_pos hfull, htake] at h
      cases h
      exact ⟨rfl, fun e _ => Nat.le_antisymm hle hfull⟩
    · rw [cutOff, if_neg hfull] at h
      cases h

/-- What comes of some of the references behind a smaller or larger limit. The error that all of them have hidden, if
they have reached theirs, shows then unless this limit is reached too. -/
theorem cutOff_filter {found : List Reference} {error? failure? : Option SessionError} (hle : found.length ≤ limit)
    (herror : found.length = limit → error? = failure?) (h : cutOff limit found error? = .ok hits)
    (test : Reference → Bool) (m : Nat) :
    ((hits.length = limit → failure? = none ∨ m ≤ (hits.filter test).length) →
      cutOff m (found.filter test) error? = .ok ((hits.filter test).take m)) ∧
    ∀ e, failure? = some e → hits.length = limit → (hits.filter test).length < m →
      cutOff m (found.filter test) error? = .error e := by
  obtain ⟨rfl, hfull⟩ := of_cutOff_eq_ok hle h
  refine ⟨fun hroom => ?_, fun e he hlength hlt => ?_⟩
  · cases error? with
    | none => rfl
    | some e =>
      have hlength : found.length = limit := hfull e rfl
      rcases hroom hlength with hnone | hm
      · rw [← herror hlength] at hnone
        cases hnone
      · exact cutOff_of_le hm _
  · rw [herror hlength, he]
    exact if_neg (Nat.not_le.2 hlt)

theorem length_found_le (session : Session) (cache : Cache) (planned : List (Group × Query)) :
    (hitsOn cache (readable cache (steps session planned))).length ≤ servedRows session planned := by
  rw [← fetchedOn_steps]
  exact Nat.le_trans (length_hitsOn_le cache _) (fetchedOn_readable_le cache _)

/-- The first error behind as many references as there are rows is that of a reply. -/
theorem findSome?_error_of_length (session : Session) (cache : Cache) (planned : List (Group × Query))
    (h : servedRows session planned ≤ (hitsOn cache (readable cache (steps session planned))).length) :
    (steps session planned).findSome? (Step.error? cache) = failure? session planned := by
  rw [findSome?_error, findSome?_failure]
  rw [fetchedOn_steps]
  exact Nat.le_trans h (length_hitsOn_le cache _)

theorem readable_restrict (cache : Cache) (keeps : String → Bool) (path : List Step) :
    readable (cache.restrict keeps) path = readable cache path := by
  unfold readable
  simp only [Step.error?_restrict]

/-- What a search gives with a part of a cache: what lies in this part in front of the first error, cut off at its
limit. -/
theorem result_restrict_of_never (hnever : session.cancelAfter = none) (cache : Cache) (keeps : String → Bool)
    (fetchSize : UInt32) (hp : p.validate = .ok ()) {m : UInt64} (hm : m ≠ 0) :
    (search (cache.restrict keeps) session fetchSize { p with maxResults := m }).result =
      (cutOff m.toNat
        ((hitsOn cache (readable cache (steps session
          (p.plan session.dialect session.defaultSchema fetchSize)))).filter (·.isKept keeps))
        ((steps session (p.plan session.dialect session.defaultSchema fetchSize)).findSome?
          (Step.error? cache))).mapError (.dataAccess session.dataSource) := by
  have herrors : Step.error? (cache.restrict keeps) = Step.error? cache := funext (Step.error?_restrict cache keeps)
  rw [result_of_never hnever (cache.restrict keeps) fetchSize (validate_of_limit hp hm), readable_restrict,
    hitsOn_restrict, herrors]
  rfl

/-- **A search with a part of a cache finds the hits that lie in this part.** A limit of as many references as there are
rows does not stop the search with all of the cache too early; but when it is reached, an error behind the last row is
not met, and a search that leaves out some of the hits can meet it. -/
theorem search_restrict (session : Session) (hnever : session.cancelAfter = none) (cache : Cache)
    (keeps : String → Bool) (fetchSize : UInt32) (p : Params) (hp : p.validate = .ok ()) (m : UInt64) (hm : m ≠ 0)
    (hrows : servedRows session (p.plan session.dialect session.defaultSchema fetchSize) ≤ p.maxResults.toNat)
    (hits : List Reference) (hhits : (search cache session fetchSize p).result = .ok hits) :
    ((hits.length = p.maxResults.toNat →
        failure? session (p.plan session.dialect session.defaultSchema fetchSize) = none ∨
          m.toNat ≤ (hits.filter (·.isKept keeps)).length) →
      (search (cache.restrict keeps) session fetchSize { p with maxResults := m }).result =
        .ok ((hits.filter (·.isKept keeps)).take m.toNat)) ∧
    ∀ e, failure? session (p.plan session.dialect session.defaultSchema fetchSize) = some e →
      hits.length = p.maxResults.toNat → (hits.filter (·.isKept keeps)).length < m.toNat →
      (search (cache.restrict keeps) session fetchSize { p with maxResults := m }).result =
        .error (.dataAccess session.dataSource e) := by
  have hfull := result_of_never hnever cache fetchSize hp
  rw [hhits] at hfull
  rw [result_restrict_of_never hnever cache keeps fetchSize hp hm]
  -- the two searches differ in which references they take from the same rows, and in where they cut them off
  have hle := length_found_le session cache (p.plan session.dialect session.defaultSchema fetchSize)
  have herror := findSome?_error_of_length session cache (p.plan session.dialect session.defaultSchema fetchSize)
  obtain ⟨hok, hmet⟩ := cutOff_filter (Nat.le_trans hle hrows) (fun hlength => herror (hlength ▸ hrows))
    (eq_ok_of_mapError hfull.symm) (·.isKept keeps) m.toNat
  refine ⟨fun hroom => ?_, fun e he hlength hlt => ?_⟩
  · rw [hok hroom]
    rfl
  · rw [hmet e he hlength hlt]
    rfl

end Both

/-! ## A catalog without its table of routines -/

/-- A catalog with one table of one schema, and no table of routines. -/
def routineless : HostedCatalog where
  name := "routineless"
  tables := { relations := some [⟨.text "S", .text "T", .text "T"⟩], routines := none }

/-- A search for all tables and routines, of which one may be returned. -/
def oneTableOrRoutine : Params where
  mask := "%"
  objectTypes := [.category .table, .procedure]
  globalSearch := true
  maxResults := 1

/-- The table fills a search with all of the cache, which so does not ask for the routines. Without the schema of the
table the search asks for them, and fails instead of finding nothing. -/
theorem search_restrict_may_fail :
    ¬ ∀ (session : Session) (cache : Cache) (keeps : String → Bool) (fetchSize : UInt32) (p : Params) (m : UInt64)
      (hits : List Reference), session.cancelAfter = none → p.validate = .ok () → m ≠ 0 →
        servedRows session (p.plan session.dialect session.defaultSchema fetchSize) ≤ p.maxResults.toNat →
        (search cache session fetchSize p).result = .ok hits →
        (search (cache.restrict keeps) session fetchSize { p with maxResults := m }).result =
          .ok ((hits.filter (·.isKept keeps)).take m.toNat) := by
  intro h
  have hnone := h routineless.session bareCache (· != "S") 1000 oneTableOrRoutine 1 [⟨"T", .schema "S", .table⟩] rfl rfl
    (by decide) (by decide +kernel) (by decide +kernel)
  have hfails : (search (bareCache.restrict (· != "S")) routineless.session 1000 oneTableOrRoutine).result =
      .error (.dataAccess "routineless" (.database (.noSuchTable "SYSCAT.ROUTINES"))) := by decide +kernel
  rw [show { oneTableOrRoutine with maxResults := 1 } = oneTableOrRoutine from rfl, hfails] at hnone
  cases hnone

/-- A session that has the tables of two schemas in turn, and whose last reply ends with an error. -/
def alternating : Session where
  dataSource := "alternating"
  dialect := .db2
  defaultSchema := none
  cancelAfter := none
  reply q := match q.request.view with
    | .tables => ⟨[("R", "A"), ("S", "B"), ("R", "C"), ("S", "D")].map fun (schema, name) =>
        ⟨["TABSCHEMA", "TABNAME", "TYPE"], [some schema, some name, some "T"]⟩, none⟩
    | _ => ⟨[], some (.io "closed")⟩

/-- The schemas of this session. -/
def bothSchemas : Cache := (Cache.empty.insert { name := "R" }).insert { name := "S" }

theorem search_alternating_restrict :
    alternating.cancelAfter = none ∧ { oneTableOrRoutine with maxResults := 4 }.validate = .ok () ∧
    servedRows alternating ({ oneTableOrRoutine with maxResults := 4 }.plan .db2 none 10) ≤ 4 ∧
    (search bothSchemas alternating 10 { oneTableOrRoutine with maxResults := 4 }).result =
      .ok [⟨"A", .schema "R", .table⟩, ⟨"B", .schema "S", .table⟩, ⟨"C", .schema "R", .table⟩,
        ⟨"D", .schema "S", .table⟩] ∧
    ((1 : UInt64) ≠ 0 ∧
      (search (bothSchemas.restrict (· == "S")) alternating 10 { oneTableOrRoutine with maxResults := 1 }).result =
        .ok [⟨"B", .schema "S", .table⟩]) ∧
    (3 : UInt64) ≠ 0 ∧
      failure? alternating ({ oneTableOrRoutine with maxResults := 4 }.plan .db2 none 10) = some (.io "closed") ∧
      (search (bothSchemas.restrict (· == "S")) alternating 10 { oneTableOrRoutine with maxResults := 3 }).result =
        .error (.dataAccess "alternating" (.io "closed")) := by
  have hrows : servedRows alternating ({ oneTableOrRoutine with maxResults := 4 }.plan .db2 none 10) ≤ 4 := by
    decide +kernel
  have hhits : (search bothSchemas alternating 10 { oneTableOrRoutine with maxResults := 4 }).result =
      .ok [⟨"A", .schema "R", .table⟩, ⟨"B", .schema "S", .table⟩, ⟨"C", .schema "R", .table⟩,
        ⟨"D", .schema "S", .table⟩] := by decide +kernel
  have hfails : failure? alternating ({ oneTableOrRoutine with maxResults := 4 }.plan .db2 none 10) =
      some (.io "closed") := by decide +kernel
  have hone : (1 : UInt64) ≠ 0 := by decide
  have hthree : (3 : UInt64) ≠ 0 := by decide
  obtain ⟨hok, -⟩ := search_restrict alternating rfl bothSchemas (· == "S") 10 _ rfl 1 hone hrows _ hhits
  obtain ⟨-, hmet⟩ := search_restrict alternating rfl bothSchemas (· == "S") 10 _ rfl 3 hthree hrows _ hhits
  exact ⟨rfl, rfl, hrows, hhits, ⟨hone, hok fun _ => .inr (by decide)⟩, hthree, hfails,
    hmet _ hfails rfl (by decide)⟩

end Search

end CatalogFinder
