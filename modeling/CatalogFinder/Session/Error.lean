/-!
# Session errors

What can go wrong between a search and the catalog it reads. A `DatabaseError` is the refusal of a database that hosts
a catalog or a snapshot store; the other errors concern a row that lacks what its reader needs, or the transport.
-/

namespace CatalogFinder

/-- Why a database refuses a statement. -/
inductive DatabaseError where
  | noSuchTable (table : String)
  | noSuchColumn (table column : String)
  | nullNotAllowed (table column : String)
  | notUnique (table : String)
  | patternTooLong
  | unreadableStatement
  | malformedName
  | cannotOpen
  | notADatabase
  | readOnly
  | alreadyAttached
  deriving DecidableEq, Repr

def DatabaseError.message : DatabaseError → String
  | noSuchTable table => s!"no such table: {table}"
  | noSuchColumn table column => s!"table {table} has no column named {column}"
  | nullNotAllowed table column => s!"NOT NULL constraint failed: {table}.{column}"
  | notUnique table => s!"UNIQUE constraint failed: {table}"
  | patternTooLong => "LIKE or GLOB pattern too complex"
  | unreadableStatement => "unrecognized token"
  | malformedName => "unable to open database: malformed name"
  | cannotOpen => "unable to open database file"
  | notADatabase => "file is not a database"
  | readOnly => "attempt to write a readonly database"
  | alreadyAttached => "database is already attached"

/-- Why a session does not deliver. -/
inductive SessionError where
  | database (cause : DatabaseError)
  | io (reason : String)
  | lockPoisoned
  | missingColumn (column : String)
  | nullValue (column : String)
  | invalidValue (column value : String)
  deriving DecidableEq, Repr

def SessionError.message : SessionError → String
  | database cause => s!"SQLite error: {cause.message}"
  | io reason => s!"IO error: {reason}"
  | lockPoisoned => "session lock poisoned"
  | missingColumn column => s!"result set has no column '{column}'"
  | nullValue column => s!"column '{column}' is NULL"
  | invalidValue column value => s!"invalid value '{value}' in column '{column}'"

end CatalogFinder
