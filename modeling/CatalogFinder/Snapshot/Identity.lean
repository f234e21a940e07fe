import CatalogFinder.Digest.Fingerprint
import CatalogFinder.Settings.Basic

/-!
# What a snapshot is made from

A snapshot belongs to a connection and a filter, as they stand in the settings. Its hash in a store is the fingerprint
of both.
-/

namespace CatalogFinder

/-- What a snapshot is made from. -/
structure SnapshotIdentity where
  connection : Connection
  filter : Filter
  deriving DecidableEq, Repr

namespace SnapshotIdentity

def toJson (i : SnapshotIdentity) : Json :=
  .object [("connection", i.connection.toJson), ("filters", i.filter.toJson)]

/-- The hash under which the snapshot is kept. -/
def hash (i : SnapshotIdentity) : String := i.toJson.fingerprint

end SnapshotIdentity

end CatalogFinder
