import Translucency.Act
import Translucency.Printing
import Translucency.Settings.Basic

/-!
# Validation of settings

The entries of a settings file are checked setting by setting and put over the defaults. Unknown
keys are warned about and otherwise ignored; the first setting with a value of the wrong kind
refuses them all. An integer that no floating point number can hold is a mishap rather than a
refusal, because the test for finiteness converts it. So is an unknown key that cannot be printed
into its warning.
-/

namespace Translucency.Settings

variable {σ : Type}

/-- The number that a value is, if it is a finite one. -/
def finiteNumber? : Value → Except Fault (Option Number)
  | .int n =>
    if (Binary64.ofInt n).isFinite then .ok (some (.whole n)) else .error (.mishap .tooLarge)
  | .float x => .ok (if x.isFinite then some (.real x) else none)
  | _ => .ok none

/-- An opacity in percent: any finite number. -/
def readOpacity (v : Value) : Except Fault Number := do
  match ← finiteNumber? v with
  | some n => return n
  | none => throw (.settings .badOpacity)

/-- An exclusion list: a text, or null for the empty one. -/
def readExclusions : Value → Except Fault String
  | .text s => .ok s
  | .null => .ok ""
  | _ => .error (.settings .badExclusions)

/-- A flag: a boolean. -/
def readFlag (setting : Setting) : Value → Except Fault Bool
  | .bool b => .ok b
  | _ => .error (.settings (.badFlag setting.key))

/-- The shortest poll interval, a tenth of a second, in grains. -/
def shortestInterval : Int :=
  match Binary64.ofRatio false 1 10 with
  | .finite negative rank => Binary64.signedGrains negative rank
  | _ => 0

/-- The longest poll interval, thirty seconds, in grains. -/
def longestInterval : Int := 30 * Binary64.one

/-- A poll interval: a number in range. -/
def readInterval (v : Value) : Except Fault Binary64 := do
  match ← finiteNumber? v with
  | some n =>
    if n.below shortestInterval || n.above longestInterval then throw (.settings .badInterval)
    else return n.toBinary64
  | none => throw (.settings .badInterval)

/-- The value of a setting among entries, or the default where it is missing. -/
def readOr {α : Type} (entries : List (Value × Value)) (setting : Setting) (default : α)
    (reader : Value → Except Fault α) : Except Fault α :=
  match Value.lookup? (.text setting.key) entries with
  | some v => reader v
  | none => .ok default

/-- The settings that entries amount to. -/
def ofEntries (entries : List (Value × Value)) : Except Fault Settings := do
  let d : Settings := {}
  let opacity ← readOr entries .opacity d.opacity readOpacity
  let exclusions ← readOr entries .exclusions d.exclusions readExclusions
  let showNames ← readOr entries .showNames d.showNames (readFlag .showNames)
  let showDebug ← readOr entries .showDebug d.showDebug (readFlag .showDebug)
  let interval ← readOr entries .interval d.interval readInterval
  return { opacity, exclusions, showNames, showDebug, interval }

def isKnown : Value → Bool
  | .text key => (Setting.ofKey? key).isSome
  | _ => false

/-- Warns about the keys that belong to no setting. -/
def warnUnknown (entries : List (Value × Value)) : Act σ Unit :=
  (entries.filter fun e => !isKnown e.1).forM fun e =>
    do .log .warning .settings ("Ignoring unknown setting '" ++ (← .lift e.1.label) ++ "'")

/-- The settings that entries amount to, after the warnings. -/
def validate (entries : List (Value × Value)) : Act σ Settings := do
  warnUnknown entries
  .lift (ofEntries entries)

end Translucency.Settings
