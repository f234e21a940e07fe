import CatalogFinder.Search.Tag

/-!
# Running a search

A search asks the groups that serve its categories one after the other, and collects the references of the rows that
it gets. It ends early when it has as many references as it may return, when the session is seen to be cancelled, or at
the first error. Cancellation is looked at before each query and after each fetched row; a row at which it shows is not
read. A plan is made of the same queries, without asking them.

* `readRows` : what is taken from the rows of one reply;
* `runGroups` : what is taken from the replies to the queries of some groups;
* `search` : the search in an open session, `searchSource` the search in a session opened for it;
* `plan` : the queries of a search in a session of a dialect and a default schema.
-/

namespace CatalogFinder

/-- Why a search or a look-up gives no answer. -/
inductive SearchError where
  | invalidParams (cause : ParamsError)
  | dataAccess (dataSource : String) (cause : SessionError)
  | notFound (category : Category) (name containerKind container : String)
  deriving DecidableEq, Repr

def SearchError.message : SearchError → String
  | invalidParams cause => s!"invalid search parameters: {cause.message}"
  | dataAccess dataSource cause => s!"catalog query failed on '{dataSource}': {cause.message}"
  | notFound category name kind container => s!"{category.label} '{name}' not found in {kind} '{container}'"

def Reference.resolve (cache : Cache) (r : Reference) : Except SearchError CatalogObject :=
  match r.resolve? cache with
  | some object => .ok object
  | none => .error (.notFound r.category r.name r.container.kind r.container.name)

namespace Search

/-- What is taken from the rows of a reply: references, the error that ended it, and the number of rows fetched since
the session was opened. -/
structure Reading where
  hits : List Reference
  failure : Option SessionError
  fetched : Nat

/-- Takes up to `room` references from rows, where so many rows have been fetched before. -/
def readRows (session : Session) (cache : Cache) (g : Group) (failure : Option SessionError) :
    (room fetched : Nat) → (first : Bool) → List Row → Reading
  | _, fetched, _, [] => ⟨[], failure, fetched⟩
  | room, fetched, first, row :: rest =>
    let fetched := fetched + 1
    if session.cancelled fetched then ⟨[], none, fetched⟩
    else match g.read cache first row with
      | .error e => ⟨[], some e, fetched⟩
      | .ok none => readRows session cache g failure room fetched false rest
      | .ok (some hit) =>
        if room ≤ 1 then ⟨[hit], none, fetched⟩
        else
          let later := readRows session cache g failure (room - 1) fetched false rest
          { later with hits := hit :: later.hits }

/-- What is taken from the replies to some queries. -/
structure Outcome where
  result : Except SessionError (List Reference)
  executed : List Query
  fetched : Nat

/-- Asks the groups with a query for each, and takes up to `room` references from the replies, where so many rows have
been fetched before. -/
def runGroups (session : Session) (cache : Cache) (query : Group → Query) :
    (room fetched : Nat) → List Group → Outcome
  | _, fetched, [] => ⟨.ok [], [], fetched⟩
  | room, fetched, g :: rest =>
    if room = 0 then ⟨.ok [], [], fetched⟩
    else if session.cancelled fetched then ⟨.ok [], [], fetched⟩
    else
      let reply := session.reply (query g)
      let reading := readRows session cache g reply.failure room fetched true reply.rows
      match reading.failure with
      | some e => ⟨.error e, [query g], reading.fetched⟩
      | none =>
        let later := runGroups session cache query (room - reading.hits.length) reading.fetched rest
        ⟨later.result.map (reading.hits ++ ·), query g :: later.executed, later.fetched⟩

end Search

/-- A search, with the steps taken and the number of rows fetched. -/
structure SearchRun where
  result : Except SearchError (List Reference)
  events : List Event
  fetched : Nat

/-- Searches in an open session. -/
def search (cache : Cache) (session : Session) (fetchSize : UInt32) (p : Params) : SearchRun :=
  match p.validate with
  | .error e => ⟨.error (.invalidParams e), [], 0⟩
  | .ok () =>
    if p.categories.isEmpty then ⟨.ok [], [], 0⟩
    else
      let scope := p.scopeWithin session.defaultSchema
      let outcome := Search.runGroups session cache (fun g => session.query (g.request p scope) fetchSize)
        p.maxResults.toNat 0 p.groups
      ⟨outcome.result.mapError (.dataAccess session.dataSource), outcome.executed.map .executed, outcome.fetched⟩

/-- What a session is opened for by a search. -/
def searchPurpose : String := "Find objects by name"

def searchSource (cache : Cache) (source : Source) (fetchSize : UInt32) (p : Params) : SearchRun :=
  match p.validate with
  | .error e => ⟨.error (.invalidParams e), [], 0⟩
  | .ok () =>
    match source.session with
    | .error e => ⟨.error (.dataAccess source.name e), [.opened searchPurpose], 0⟩
    | .ok session =>
      let run := search cache session fetchSize p
      { run with events := .opened searchPurpose :: run.events }

/-- The groups and queries of a search, if it can be run. -/
def plan (dialect : Dialect) (defaultSchema : Option String) (fetchSize : UInt32) (p : Params) :
    Except SearchError (List (Group × Query)) :=
  (p.validate.mapError .invalidParams).map fun _ => p.plan dialect defaultSchema fetchSize

end CatalogFinder
