import CatalogFinder.Files.Basic
import CatalogFinder.Settings.File

/-!
# Where settings are found

A settings file that is named, on the command line or else in the environment, has to be there. If none is named, the
first of the usual files that is there is read, and without any the settings are the defaults.
-/

namespace CatalogFinder

/-- The variable that names a settings file. -/
def configVariable : String := "CATALOG_SEARCH_CONFIG"

namespace Environment

/-- The home directory: the one that is set, or else that of the user's account. -/
def home? (env : Environment) : Option String :=
  ((env.value? "HOME").filter (!·.isEmpty)).or (env.accountHome.filter (!·.isEmpty))

/-- The directory of a user's settings: an absolute path that is set for it, or else below the home directory. -/
def configDirectory? (env : Environment) : Option Path :=
  let chosen := ((env.value? "XDG_CONFIG_HOME").map Path.ofString).filter (·.absolute)
  chosen.or (env.home?.map fun home => (Path.ofString home).child ".config")

/-- The files in which settings are looked for, in this order. -/
def usualSettingsFiles (env : Environment) : List Path :=
  Path.ofString "catalog-search.toml" ::
    (env.configDirectory?.map fun d => (d.child "catalog-search").child "config.toml").toList

end Environment

namespace Settings

def ofFile (files : Files) (p : Path) : Except SettingsError Settings :=
  match files.readText p with
  | .ok text => ofToml text
  | .error e => .error (.unreadable e.message)

/-- The settings of a program, for which the command line may name a file. -/
def lookup (files : Files) (env : Environment) (config : Option String) : Except SettingsError Settings :=
  match config.or (env.value? configVariable) with
  | some name =>
    let p := Path.ofString name
    if files.has p then ofFile files p else .error (.fileNotFound name)
  | none =>
    match env.usualSettingsFiles.find? files.has with
    | some p => ofFile files p
    | none => .ok {}

end Settings

end CatalogFinder
