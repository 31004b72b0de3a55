import Translucency.Fault

/-!
# Log records

Everything worth telling is a record: how urgent it is, which part of the program speaks, what it
says, and the fault behind it where there is one.
-/

namespace Translucency

/-- How urgent a record is, the least urgent first. -/
inductive Level where
  | debug
  | info
  | warning
  | error
deriving DecidableEq

/-- The rank of a level. -/
def Level.rank : Level → Nat
  | .debug => 0
  | .info => 1
  | .warning => 2
  | .error => 3

def Level.name : Level → String
  | .debug => "DEBUG"
  | .info => "INFO"
  | .warning => "WARNING"
  | .error => "ERROR"

/-- The part of the program that speaks. -/
inductive Channel where
  | root
  | settings
  | cache
  | matcher
  | policy
  | command
  | kwin
  | simulation
  | monitor
  | controller
  | dependencies
deriving DecidableEq

def Channel.name : Channel → String
  | .root => "root"
  | .settings => "WindowOpacity.config_loader"
  | .cache => "WindowOpacity.pattern_cache"
  | .matcher => "WindowOpacity.exclusion_matcher"
  | .policy => "WindowOpacity.opacity_policy"
  | .command => "WindowOpacity.window_sources"
  | .kwin => "WindowOpacity.window_sources.KWinScriptingSource"
  | .simulation => "WindowOpacity.window_sources.SimulationSource"
  | .monitor => "WindowOpacity.window_monitor"
  | .controller => "WindowOpacity.transparency"
  | .dependencies => "WindowOpacity.dependency_check"

structure Record where
  level : Level
  channel : Channel
  message : String
  fault : Option Fault := none

end Translucency
