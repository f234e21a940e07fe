import CatalogFinder.Command.Arguments
import CatalogFinder.Command.Report
import CatalogFinder.Command.Target

/-!
# Running commands

A command takes files from one state to another and gives a text, or an error. What it did to the files before an error
stays done.

* `Command.run` : a command under given settings;
* `runProgram` : a whole command line.
-/

namespace CatalogFinder

/-- What a program leaves behind: its exit code and what it has written. -/
structure Outcome where
  exitCode : Nat
  output : String
  errors : String
  deriving DecidableEq, Repr

def SearchCommand.params (c : SearchCommand) (settings : Settings) : Params where
  mask := c.mask
  caseSensitive := c.caseSensitive || settings.search.caseSensitive
  objectTypes := if c.types.isEmpty then Category.all.map .category else c.types
  scope := c.schema
  globalSearch := c.globalSearch
  inDefinitions := c.inDefinitions
  maxResults := c.maxResults.getD settings.search.maxResults

namespace Command

/-- Searches the catalog, or writes what would be asked of it. -/
def runSearch (s : Surroundings) (settings : Settings) (connection : Option String) (c : SearchCommand) :
    CommandAction String := do
  let params := c.params settings
  let target ← openTarget s settings connection
  if c.explain then
    let planned := plan .db2 target.connection.defaultSchema settings.search.fetchSize params
    return Report.queries (← FileAction.of .search planned)
  else
    let cache ← target.cache s settings c.refresh
    let run := searchSource cache target.catalog.source settings.search.fetchSize params
    return Report.references (← FileAction.of .search run.result) c.output

def containerOf (schema : String) : Option Owner → Container
  | some (.table table) => .table schema table
  | some (.view view) => .view schema view
  | none => .schema schema

def runResolve (s : Surroundings) (settings : Settings) (connection : Option String) (c : ResolveCommand) :
    CommandAction String := do
  match c.objectType.category? with
  | none => throw (.notCached c.objectType)
  | some category =>
    let target ← openTarget s settings connection
    match c.schema.or target.connection.defaultSchema with
    | none => throw .noSchema
    | some schema =>
      let cache ← target.cache s settings c.refresh
      let reference : Reference := ⟨c.name, containerOf schema c.owner, category⟩
      return Report.object (← FileAction.of .search (reference.resolve cache)) c.output

def runSnapshot (s : Surroundings) (settings : Settings) (connection : Option String) (c : SnapshotCommand) :
    CommandAction String := do
  let (h, store) ← openStore s settings
  match c with
  | .save =>
    let target ← openTarget s settings connection
    let cache ← FileAction.of .load (target.load settings)
    putStore h (store.save (target.identity settings).hash cache s.time)
    return Report.saved target.name cache
  | .clear =>
    let target ← openTarget s settings connection
    let (count, store) ← FileAction.of .snapshot (store.delete (target.identity settings).hash)
    putStore h store
    return Report.cleared target.name count
  | .clearAll =>
    putStore h store.clear
    return Report.clearedAll
  | .stats => return Report.stats store.stats

def run (s : Surroundings) (settings : Settings) (connection : Option String) : Command → CommandAction String
  | search c => runSearch s settings connection c
  | resolve c => runResolve s settings connection c
  | types => return Report.types
  | snapshot c => runSnapshot s settings connection c

end Command

/-- Does what is asked for under the settings that are found. -/
def Invocation.run (i : Invocation) (s : Surroundings) : CommandAction String := do
  let settings ← FileAction.of .settings (Settings.lookup (← get) s.environment i.config)
  i.command.run s settings i.connection

def usage : String := Report.lines [
  "Usage: catalog-search [--config FILE] [-c CONNECTION] [-v] COMMAND",
  "",
  "  search MASK [-t TYPE]... [-s SCHEMA] [--global] [--case-sensitive] [--definitions] [-m MAX]",
  "         [--refresh] [--explain] [-o text|json]",
  "  resolve NAME -t TYPE [-s SCHEMA] [--table TABLE | --view VIEW] [--refresh] [-o text|json]",
  "  types",
  "  snapshot save | clear [--all] | stats"]

def versionLine : String := Report.lines ["catalog-search 0.1.0"]

def runProgram (w : Wording) (s : Surroundings) (words : List String) (files : Files) : Outcome × Files :=
  match Invocation.ofArguments words with
  | .error .help => (⟨0, "", usage⟩, files)
  | .error .version => (⟨0, versionLine, ""⟩, files)
  | .error (.misuse reason) => (⟨2, "", Report.lines [s!"error: {reason}", ""] ++ usage⟩, files)
  | .ok invocation =>
    match (invocation.run s).run files with
    | (.ok output, files) => (⟨0, output, ""⟩, files)
    | (.error e, files) => (⟨1, "", Report.lines [s!"Error: {e.message w}"]⟩, files)

end CatalogFinder
