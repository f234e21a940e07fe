import CatalogFinder.Session.Request
import CatalogFinder.Session.Row

/-!
# Sessions

A session answers queries. The answer to a query is a `Reply`: rows, and possibly an error after the last of them. A
reader takes the rows one by one and may stop before the end; then it does not see the error. A session can be
cancelled, which shows as soon as a certain number of rows has been fetched from it.

* `Session.cancelled` : whether the cancellation shows;
* `Source` : where a session is opened from, if it can be opened;
* `Event` : what happens on the way to a source and its session.
-/

namespace CatalogFinder

/-- Rows, and the error that ends them. -/
structure Reply where
  rows : List Row
  failure : Option SessionError := none
  deriving Repr

structure Session where
  dataSource : String
  dialect : Dialect
  /-- The schema searched when a search names none. -/
  defaultSchema : Option String
  /-- How many rows are fetched before the session is seen to be cancelled, if it ever is. -/
  cancelAfter : Option Nat
  reply : Query → Reply

namespace Session

/-- After so many fetched rows the session is seen to be cancelled. -/
def cancelled (s : Session) (fetched : Nat) : Bool :=
  match s.cancelAfter with
  | some n => n ≤ fetched
  | none => false

def query (s : Session) (request : Request) (fetchSize : UInt32) : Query := ⟨request, s.dialect, fetchSize⟩

end Session

/-- A data source: opening a session of it may fail. -/
structure Source where
  name : String
  session : Except SessionError Session

/-- A step taken towards a data source. -/
inductive Event where
  | opened (purpose : String)
  | executed (q : Query)
  deriving DecidableEq, Repr

/-- How many rows a session fetches in one go if nothing else is said. -/
def defaultFetchSize : UInt32 := 1000

end CatalogFinder
