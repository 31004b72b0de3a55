import Translucency.Ini
import Translucency.Text.Quoted

/-!
# Why settings are refused

Each way in which a settings file or a setting in it is not acceptable, and its wording.
-/

namespace Translucency

/-- Why settings were refused. -/
inductive SettingsFault where
  | badDocument (path : String)
  | badIni (path : String) (fault : Ini.Fault)
  | emptyDocument
  | noRoot
  | badRoot
  | badSettings
  | badOpacity
  | badExclusions
  | badFlag (key : String)
  | badInterval
  | badNumber (key : String)

def quotedPath (path : String) : String := String.ofList (Text.quoted path.toList)

/-- A line number, at least two characters wide. -/
def lineNumber (n : Nat) : String := (if n < 10 then " " else "") ++ toString n

/-- A raw line in quotes. -/
def quotedLine (line : List Char) : String := String.ofList (Text.quoted line)

/-- The wording of an ini fault in the file at a path. -/
def Ini.Fault.message (path : String) : Ini.Fault → String
  | .noHeader number line =>
    "File contains no section headers.\nfile: " ++ quotedPath path ++ ", line: " ++
      toString number ++ "\n" ++ quotedLine line
  | .badLines lines =>
    lines.foldl
      (fun text line => text ++ "\n\t[line " ++ lineNumber line.1 ++ "]: " ++ quotedLine line.2)
      ("Source contains parsing errors: " ++ quotedPath path)

def SettingsFault.message : SettingsFault → String
  | .badDocument path => "Invalid YAML in " ++ path
  | .badIni path fault => "Invalid kwinrc " ++ path ++ ": " ++ fault.message path
  | .emptyDocument => "Configuration file is empty"
  | .noRoot => "Configuration must contain 'window_opacity' root element"
  | .badRoot => "'window_opacity' must be a dictionary"
  | .badSettings => "'settings' must be a dictionary"
  | .badOpacity => "windowOpacityPercentage must be a finite number"
  | .badExclusions => "excludedWindows must be a string"
  | .badFlag key => key ++ " must be true or false"
  | .badInterval => "pollInterval must be a number between 0.1 and 30.0 (seconds)"
  | .badNumber key => key ++ " must be a number"

end Translucency
