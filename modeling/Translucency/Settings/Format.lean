import Translucency.Fault
import Translucency.File
import Translucency.Ini
import Translucency.Number.Numeral
import Translucency.Settings.Basic
import Translucency.Text.LowerCase

/-!
# Where settings stand in a file

There are two kinds of settings files. A document holds them in a map of its own, two levels below
the root. An ini file, which the desktop writes, holds them in the section of the program's script,
as texts that are converted to the kind of the setting's default; without that section everything
is at its default.

What makes a value of a document is somebody else's reader, and any function may be one. It gives a
value, or says that there is none in the bytes, or is stopped by a fault of its own. Only the second
is a refusal of the settings.
-/

namespace Translucency

/-- Why a document reader gives no value. -/
inductive DocumentFault where
  | malformed
  | stopped (fault : Fault)

/-- What reads the bytes of a document. -/
abbrev DocumentReader := ByteArray → Except DocumentFault Value

inductive SettingsFormat where
  | documents (reader : DocumentReader)
  /-- An ini file, with the name of the script whose section counts. -/
  | ini (script : String)

namespace SettingsFormat

/-! ## Documents -/

/-- The key of the program's part of a document. -/
def rootKey : String := "window_opacity"

/-- The key of the settings in the program's part. -/
def settingsKey : String := "settings"

/-- The settings in a document. An empty part counts as an empty map. -/
def documentEntries : Value → Except SettingsFault (List (Value × Value))
  | v => do
    if !v.truthy then throw .emptyDocument
    let some root := v.get? rootKey | throw .noRoot
    match root.orElse (.map []) with
    | .map entries =>
      match (Value.lookup? (.text settingsKey) entries).getD (.map []) with
      | .null => return []
      | .map settings => return settings
      | _ => throw .badSettings
    | _ => throw .badRoot

/-- The settings in the bytes of a document. -/
def readDocument (path : String) (reader : DocumentReader) (content : ByteArray) :
    Except Fault (List (Value × Value)) := do
  match reader content with
  | .error .malformed => throw (.settings (.badDocument path))
  | .error (.stopped fault) => throw fault
  | .ok v =>
    match documentEntries v with
    | .ok entries => return entries
    | .error fault => throw (.settings fault)

/-! ## Ini files -/

/-- A text as a flag. -/
def convertFlag (key text : String) : Except Fault Value :=
  let word := Text.lowered (Text.trimmed text)
  if ["true", "1", "yes", "on"].contains word then .ok (.bool true)
  else if ["false", "0", "no", "off"].contains word then .ok (.bool false)
  else .error (.settings (.badFlag key))

/-- A text as a number: with a point a floating point number, without one an integer. -/
def convertNumber (key text : String) : Except Fault Value :=
  let s := text.toList
  let number :=
    if s.contains '.' then (Numeral.float? s).map .float else (Numeral.integer? 10 s).map .int
  match number with
  | some v => .ok v
  | none => .error (.settings (.badNumber key))

/-- A text as the kind of the setting with a key; under other keys it stays a text. -/
def convert (key text : String) : Except Fault Value :=
  match Setting.ofKey? key with
  | some .showNames | some .showDebug => convertFlag key text
  | some .opacity | some .interval => convertNumber key text
  | some .exclusions | none => .ok (.text text)

def sectionName (script : String) : String := "Script-" ++ script

/-- The sections in the bytes of an ini file. A line with no section over it is refused as soon as it
is read. What is wrong with other lines is said at the end, and that is not reached if there are
bytes that are no text. -/
def readSections (path : String) (content : ByteArray) : Except Fault Ini.Sections :=
  let (lines, stop?) := File.lines content
  match Ini.read lines, stop? with
  | .error (.noHeader number line), _ => .error (.settings (.badIni path (.noHeader number line)))
  | _, some m => .error (.mishap m)
  | .error fault, none => .error (.settings (.badIni path fault))
  | .ok sections, none => .ok sections

/-- The settings in the bytes of an ini file; none if the section is missing. -/
def readIni (path script : String) (content : ByteArray) :
    Except Fault (Option (List (Value × Value))) := do
  match Ini.entries? (sectionName script) (← readSections path content) with
  | none => return none
  | some entries => return some (← entries.mapM fun e => return (.text e.1, ← convert e.1 e.2))

end SettingsFormat

end Translucency
