import Translucency.Value

/-!
# Settings

The five settings with their defaults. A settings file gives them as dynamic values under their
keys; once accepted they have types of their own, so that whoever reads one later need not check it
again.
-/

namespace Translucency

/-- A number as a settings file may spell it. -/
inductive Number where
  | whole (n : Int)
  | real (x : Binary64)
deriving DecidableEq

namespace Number

def value : Number → Value
  | whole n => .int n
  | real x => .float x

def toBinary64 : Number → Binary64
  | whole n => .ofInt n
  | real x => x

/-- Whether a number lies strictly below a size in grains. -/
def below (bound : Int) : Number → Bool
  | whole n => n * Binary64.one < bound
  | real x => x.below bound

/-- Whether a number lies strictly above a size in grains. -/
def above (bound : Int) : Number → Bool
  | whole n => bound < n * Binary64.one
  | real x => x.above bound

end Number

/-- The settings by name. -/
inductive Setting where
  | opacity
  | exclusions
  | showNames
  | showDebug
  | interval
deriving DecidableEq

namespace Setting

def key : Setting → String
  | opacity => "windowOpacityPercentage"
  | exclusions => "excludedWindows"
  | showNames => "showNewWindowNames"
  | showDebug => "showDebugLogs"
  | interval => "pollInterval"

/-- All settings, in the order in which they are checked. -/
def all : List Setting := [opacity, exclusions, showNames, showDebug, interval]

def ofKey? (key : String) : Option Setting := all.find? (·.key == key)

end Setting

structure Settings where
  opacity : Number := .whole 70
  exclusions : String := ""
  /-- Whether to log the identity of every new window. -/
  showNames : Bool := false
  /-- Whether to log errors of the exclusion list visibly. -/
  showDebug : Bool := false
  /-- The seconds between two looks at the windows. -/
  interval : Binary64 := .ofInt 2
deriving DecidableEq

def Settings.get (s : Settings) : Setting → Value
  | .opacity => s.opacity.value
  | .exclusions => .text s.exclusions
  | .showNames => .bool s.showNames
  | .showDebug => .bool s.showDebug
  | .interval => .float s.interval

/-- All settings as dynamic values under their keys. -/
def Settings.entries (s : Settings) : List (Value × Value) :=
  Setting.all.map fun setting => (.text setting.key, s.get setting)

end Translucency
