import CatalogFinder.NameMap
import CatalogFinder.Text.Alphanumeric
import CatalogFinder.Text.Blank
import CatalogFinder.Text.Case.Lower
import CatalogFinder.Text.Case.Upper
import CatalogFinder.Text.Like
import CatalogFinder.Digest.Sha256
import CatalogFinder.Json.Basic
import CatalogFinder.Json.Printer
import CatalogFinder.Json.Parser
import CatalogFinder.Json.Record
import CatalogFinder.Catalog.Category
import CatalogFinder.Catalog.TypeCode
import CatalogFinder.Catalog.Filter
import CatalogFinder.Catalog.Object
import CatalogFinder.Catalog.Load
import CatalogFinder.Search.Params
import CatalogFinder.Search.Plan
import CatalogFinder.Search.Reference
import CatalogFinder.Search.Run
import CatalogFinder.Catalog.Json
import CatalogFinder.Search.Json
import CatalogFinder.Settings.Expand
import CatalogFinder.Digest.Fingerprint
import CatalogFinder.Settings.Basic
import CatalogFinder.Number.Binary64
import CatalogFinder.Text.Utf8
import CatalogFinder.Tables.Value
import CatalogFinder.Tables.Answer
import CatalogFinder.Tables.Hosted
import CatalogFinder.Snapshot.Store
import CatalogFinder.Toml.Basic
import CatalogFinder.Toml.Quoted
import CatalogFinder.Toml.Scalar
import CatalogFinder.Toml.Document
import CatalogFinder.Settings.File
import CatalogFinder.Files.Basic
import CatalogFinder.Files.Hosting
import CatalogFinder.Snapshot.Identity
import CatalogFinder.Command.Arguments
import CatalogFinder.Command.Report
import CatalogFinder.Command.Run
import CatalogFinder.Files.Encoding
import CatalogFinder.Main
import CatalogFinder.Proofs.Search.Walk
import CatalogFinder.Proofs.Search.Shortened
import CatalogFinder.Proofs.Tables.Filled
import CatalogFinder.Proofs.Tables.Masks
import CatalogFinder.Proofs.Tables.Served
import CatalogFinder.Proofs.Catalog.Codes
import CatalogFinder.Proofs.Search.Hosted
import CatalogFinder.Proofs.Text.Digits
import CatalogFinder.Proofs.Text.Ascii
import CatalogFinder.Proofs.Catalog.Growth
import CatalogFinder.Proofs.Catalog.Additions
import CatalogFinder.Proofs.Catalog.Hosted
import CatalogFinder.Proofs.Search.Resolving
import CatalogFinder.Proofs.NameMap
import CatalogFinder.Proofs.Json.Reading
import CatalogFinder.Proofs.Json.Catalog
import CatalogFinder.Proofs.Snapshot.Identity
import CatalogFinder.Proofs.Snapshot.Store
import CatalogFinder.Proofs.Json.Search
import CatalogFinder.Proofs.Snapshot.Ledger
import CatalogFinder.Proofs.Files.Actions
import CatalogFinder.Proofs.Files.Places
import CatalogFinder.Proofs.Files.Kept
import CatalogFinder.Proofs.Command.Traced
import CatalogFinder.Proofs.Command.Steps
import CatalogFinder.Proofs.Command.History
import CatalogFinder.Proofs.Settings.Expand
import CatalogFinder.Proofs.Settings.Spelled
import CatalogFinder.Proofs.Settings.OpenBraces
import CatalogFinder.Proofs.Command.Environments
import CatalogFinder.Proofs.Catalog.Restricted
import CatalogFinder.Proofs.Catalog.Scans
import CatalogFinder.Proofs.Catalog.Denoted
import CatalogFinder.Proofs.Search.Uncut
import CatalogFinder.Proofs.Search.Scoped
import CatalogFinder.Proofs.Search.Known
import CatalogFinder.Proofs.Search.Named
import CatalogFinder.Proofs.Search.Planned
import CatalogFinder.Proofs.Search.Restricted
import CatalogFinder.Proofs.Session.Bound
import CatalogFinder.Proofs.Search.Bound
import CatalogFinder.Proofs.Search.Cased
import CatalogFinder.Proofs.Catalog.Excluded
import CatalogFinder.Proofs.Snapshot.Changes
import CatalogFinder.Proofs.Text.Pieces
import CatalogFinder.Proofs.Snapshot.Deletion
import CatalogFinder.Proofs.Json.Characters
import CatalogFinder.Proofs.Snapshot.Size
import CatalogFinder.Proofs.Catalog.Filters
import CatalogFinder.Proofs.Folds
import CatalogFinder.Proofs.Catalog.Assignments
import CatalogFinder.Proofs.Text.Runs
import CatalogFinder.Proofs.Text.Upper
import CatalogFinder.Proofs.Search.Prefixes
import CatalogFinder.Proofs.Catalog.Coverage
import CatalogFinder.Proofs.Tables.Seeding
