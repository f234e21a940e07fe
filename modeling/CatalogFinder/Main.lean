import CatalogFinder.Command.Run
import CatalogFinder.Files.Encoding
import Std.Time.DateTime.Timestamp

/-!
# The program

Reads from the disk what a command may open, runs the command on it, and writes back what has changed.
-/

namespace CatalogFinder.Program

/-- What the operating system says of a directory that is read as a file. -/
def directoryCode : UInt32 := 21

/-- What is at a place of the disk. -/
def readNode (place : Place) : IO (Option Node) := do
  try
    let bytes ← IO.FS.readBinFile place.key
    match String.fromUTF8? bytes with
    | none => return some .bytes
    | some text =>
      match Database.decode? text with
      | some d => return some (.database d)
      | none => return some (.text text)
  catch e =>
    match e with
    | .inappropriateType _ code _ => return if code = directoryCode then some .directory else none
    | _ => return none

/-- Reads what is at the places along a path. -/
def readPath (files : Files) (p : Path) : IO Files := do
  let mut files := files
  let mut here := files.start p
  for name in p.names do
    if name = ".." then
      here := here.dropLast
    else if !name.isEmpty && name ≠ "." then
      here := here ++ [name]
      match ← readNode here with
      | some node => files := files.put here node
      | none => pure ()
  return files

def writeNode (key : String) : Node → IO Unit
  | .directory => IO.FS.createDirAll key
  | .text content => IO.FS.writeFile key content
  | .database content => IO.FS.writeFile key (if content = {} then "" else content.encode)
  | .bytes => pure ()

/-- Writes the files that are not what they were, and removes those that are no more. -/
def writeChanges (before after : Files) : IO Unit := do
  for (key, _) in before.nodes.entries do
    if (after.nodes.get? key).isNone then IO.FS.removeFile key
  for (key, node) in after.nodes.entries do
    if before.nodes.get? key ≠ some node then writeNode key node

/-- The number of the user, among what the system says of a process. -/
def userIn? (status : String) : Option String :=
  (status.splitOn "\n").findSome? fun line =>
    match line.splitOn "\t" with
    | "Uid:" :: user :: _ => some user
    | _ => none

/-- The home directory of a user, in the list of all accounts. -/
def homeIn? (user : String) (accounts : String) : Option String :=
  (accounts.splitOn "\n").findSome? fun line =>
    match line.splitOn ":" with
    | [_, _, number, _, _, home, _] => if number = user then some home else none
    | _ => none

def readAccountHome : IO (Option String) := do
  try
    let user? := userIn? (← IO.FS.readFile "/proc/self/status")
    let accounts ← IO.FS.readFile "/etc/passwd"
    return user?.bind (homeIn? · accounts)
  catch _ => return none

def readEnvironment (names : List String) : IO Environment := do
  let found ← names.filterMapM fun name => return (← IO.getEnv name).map (name, ·)
  return { values := .ofList found, accountHome := ← readAccountHome }

/-- The variables that tell where settings and snapshots are. -/
def ownVariables : List String := [configVariable, "HOME", "XDG_CONFIG_HOME"]

/-- The paths that are looked at to open the database of a name, and the directory above it as it is written. -/
def databasePaths (name : String) : List Path :=
  (Path.ofString name).parent?.toList ++ ((DatabaseName.ofString? name).map (·.filesUsed)).getD []

/-- Reads what an invocation needs: its surroundings and the files that it may open. -/
def prepare (i : Invocation) (files : Files) : IO (Surroundings × Files) := do
  let now ← Std.Time.Timestamp.now
  let time := now.toSecondsSinceUnixEpoch.val.toNat
  let env ← readEnvironment ownVariables
  let named := (i.config.or (env.value? configVariable)).toList.map Path.ofString
  let files ← (named ++ env.usualSettingsFiles).foldlM readPath files
  match Settings.lookup files env i.config with
  | .error _ => return (⟨env, time⟩, files)
  | .ok settings =>
    let s : Surroundings := ⟨← readEnvironment (ownVariables ++ settings.namesUsed), time⟩
    let paths := (Command.databasesUsed s settings i.connection).flatMap databasePaths
    return (s, ← paths.foldlM readPath files)

/-- The readers here do not tell why they cannot read a text. -/
def wording : Wording where
  settings _ := "not a table of settings"
  snapshot key _ := s!"not a snapshot: {key}"

end CatalogFinder.Program

open CatalogFinder in
def main (words : List String) : IO UInt32 := do
  let directory := Path.ofString (toString (← IO.currentDir))
  let files := Files.within directory.leadingNames
  let (s, files) ← match Invocation.ofArguments words with
    | .ok i => Program.prepare i files
    | .error _ => pure (⟨{}, 0⟩, files)
  let (outcome, after) := runProgram Program.wording s words files
  Program.writeChanges files after
  IO.print outcome.output
  IO.eprint outcome.errors
  return UInt32.ofNat outcome.exitCode
