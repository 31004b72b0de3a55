import Translucency.Mishap
import Translucency.Settings.Fault

/-!
# Faults

What stops an operation. Refused settings, a missing settings file, and a window source that cannot
do what it is asked for are expected and worded; a broken part reports itself in its own words; a
mishap has no wording.
-/

namespace Translucency

/-- What stopped an operation. -/
inductive Fault where
  | settings (fault : SettingsFault)
  | missingSettings (path : String)
  | source (text : String)
  | broken (text : String)
  | mishap (m : Mishap)

/-- The wording of a fault; a mishap has none. -/
def Fault.message : Fault → String
  | .settings fault => fault.message
  | .missingSettings path => "Configuration file not found: " ++ path
  | .source text => text
  | .broken text => text
  | .mishap _ => ""

end Translucency
