import CatalogFinder.Settings.Basic
import CatalogFinder.Toml.Document

/-!
# Settings files

The text of a settings file is a TOML document whose root table is the record of the settings. No setting has to be
there, and entries of other names are skipped.
-/

namespace CatalogFinder.Settings

/-- The settings that a TOML document holds. -/
def ofToml (text : String) : Except SettingsError Settings :=
  match (Toml.parse? text).bind fun document => ofJson? .file document.toJson with
  | none => .error (.malformed text)
  | some settings => settings.validate.map fun _ => settings

end CatalogFinder.Settings
