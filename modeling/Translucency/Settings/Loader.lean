import Translucency.Settings.Format
import Translucency.Settings.Validation

/-!
# The settings in force

A loader keeps the settings of the last successful load and the time at which the file was changed
then. Before a setting is read the file is looked at: if its time is another one, it is loaded
again. A reload that is refused leaves the settings and the remembered time alone, so the next
reading tries again, and a warning says why.
-/

namespace Translucency

/-- A settings file and what was last loaded from it. -/
structure Loader where
  path : String
  format : SettingsFormat
  settings : Settings := {}
  /-- The time of change of the file at the last successful load. -/
  loaded : Option Int := none

namespace Loader

/-- The entries that the file gives for the settings. -/
def entries (file : File) : Act Loader (List (Value × Value)) := do
  let loader ← .read
  match loader.format, file with
  | _, .absent => .fail (.missingSettings loader.path)
  | .documents _, .directory _ => .fail (.mishap .directory)
  | .documents reader, .file _ content =>
    .lift (SettingsFormat.readDocument loader.path reader content)
  | .ini script, file =>
    let found ← match file with
      | .file _ content => .lift (SettingsFormat.readIni loader.path script content)
      | _ => pure none
    match found with
    | some entries => return entries
    | none =>
      .log .debug .settings
        ("No [" ++ SettingsFormat.sectionName script ++ "] section in " ++ loader.path ++
          ", using defaults")
      return []

def load (file : File) : Act Loader Unit := do
  let settings ← Settings.validate (← entries file)
  .change fun loader => { loader with settings := settings, loaded := file.changed? }

/-- Whether a fault of a reload is a refusal, which leaves the settings as they were. -/
def isRefusal : Fault → Bool
  | .settings _ => true
  | .missingSettings _ => true
  | _ => false

/-- Loads the file again if it was changed since the last load. -/
def reload (file : File) : Act Loader Unit := do
  let loader ← .read
  match file.changed? with
  | none =>
    .log .warning .settings
      ("Cannot stat configuration file " ++ loader.path ++
        ": [Errno 2] No such file or directory: " ++ quotedPath loader.path)
  | some changed =>
    if loader.loaded = some changed then return
    match ← (load file).attempt with
    | .ok () => .log .debug .settings ("Reloaded configuration from " ++ loader.path)
    | .error fault =>
      if isRefusal fault then
        .log .warning .settings ("Keeping previous configuration: " ++ fault.message)
      else .fail fault

/-- The settings as they stand in the file now. -/
def current (file : File) : Act Loader Settings := do
  reload file
  return (← .read).settings

/-- The value under a key as it stands in the file now, or a default for a key of no setting. -/
def lookup (file : File) (key : String) (default : Value) : Act Loader Value := do
  let settings ← current file
  return match Setting.ofKey? key with
    | some setting => settings.get setting
    | none => default

end Loader

end Translucency
