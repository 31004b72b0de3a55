/-!
# Command line options

The arguments choose the settings file and the window source. Arguments that start with two hyphens
are flags and may stand anywhere; of the others only the first counts, as the path of the settings
file. A simulation file is attached to its flag, never taken from the argument after it, and of
several simulation flags the last counts.
-/

namespace Translucency

/-- What the arguments choose. -/
structure Options where
  /-- Report the dependencies and do nothing else. -/
  checkOnly : Bool := false
  /-- Settings come from an ini file. -/
  useIni : Bool := false
  /-- The path of the settings file, unless it is the default one. -/
  settingsPath : Option String := none
  /-- Windows are simulated, from a file with a path or from the default one. -/
  simulation : Option (Option String) := none
deriving DecidableEq

namespace Options

def checkFlag : String := "--check-deps"

def iniFlag : String := "--kwinrc"

def simulateFlag : String := "--simulate"

def isFlag (arg : String) : Bool := "--".toList.isPrefixOf arg.toList

/-- Whether an argument asks for simulated windows, with a file attached or without. -/
def isSimulation (arg : String) : Bool :=
  arg == simulateFlag || (simulateFlag.toList ++ ['=']).isPrefixOf arg.toList

/-- The file attached to a flag: what follows its first `=`, or none for the default one. -/
def attached? (flag : String) : Option String :=
  let path := (flag.toList.dropWhile (· != '=')).drop 1
  if path.isEmpty then none else some (String.ofList path)

/-- Arguments out of which simulation flags are taken. -/
structure Intake where
  /-- What the flag taken last asks for. -/
  simulation : Option (Option String) := none
  /-- The arguments that are left. -/
  rest : List String

/-- Takes out a simulation flag: the first argument that reads the same. -/
def Intake.take (i : Intake) (flag : String) : Intake where
  simulation := some (attached? flag)
  rest := i.rest.erase flag

/-- Arguments after all simulation flags are taken out, one after the other. -/
def intake (args : List String) : Intake :=
  (args.filter isSimulation).foldl Intake.take { rest := args }

/-- What arguments choose. -/
def ofArguments (args : List String) : Options :=
  let { simulation, rest } := intake args
  { checkOnly := args.contains checkFlag
    useIni := rest.contains iniFlag
    settingsPath := rest.find? (!isFlag ·)
    simulation }

end Options

end Translucency
