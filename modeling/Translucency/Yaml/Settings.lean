import Translucency.Settings.Format
import Translucency.Yaml.Document

/-!
# Settings documents in YAML

The reader that the program is put together with. Three levels below the root of a settings document
only the kind of a value matters, so the document is unfolded that far. However deep a document is
nested, this reader does not run out of room.
-/

namespace Translucency

/-- The value of a YAML document, as far as settings go. -/
def Yaml.reader : DocumentReader := fun content =>
  match File.decode content with
  | .error m => .error (.stopped (.mishap m))
  | .ok text =>
    match read 3 text with
    | .error .malformed => .error .malformed
    | .error (.mishap m) => .error (.stopped (.mishap m))
    | .ok v => .ok v

/-- A settings document in YAML. -/
def SettingsFormat.document : SettingsFormat := .documents Yaml.reader

end Translucency
