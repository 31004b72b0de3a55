import Translucency.Program.Machine
import Translucency.Program.Options
import Translucency.Yaml.Settings

/-!
# A run of the program

A run loads the settings, chooses the window source, makes the first pass and starts the monitor;
from then on the monitor works in rounds while the program sleeps second by second until it is
interrupted. Log records below the level in force are dropped; it is informative at first, and
debugging if the settings ask for that.
-/

namespace Translucency.Program

/-- Where files are that the arguments do not name. -/
structure Places where
  packaged : String
  ini : String
  windows : String

/-- The settings document that comes with the program. -/
def packagedDocument : String :=
  "window_opacity:\n" ++
  "  settings:\n" ++
  "    windowOpacityPercentage: 70\n" ++
  "    # Comma separated: [exact], \x7bcontains\x7d, bare (exact)\n" ++
  "    excludedWindows: \"[org.kde.plasmashell],\x7bkrunner\x7d\"\n" ++
  "    showNewWindowNames: false\n" ++
  "    showDebugLogs: false\n" ++
  "    # Seconds between window list polls. Each poll writes one journal line per window.\n" ++
  "    pollInterval: 2.0\n"

/-- The script whose section in the ini file counts. -/
def scriptName : String := "windowopacity"

/-- The settings file that options choose. -/
def loader (places : Places) (options : Options) : Loader :=
  if options.useIni then
    { path := options.settingsPath.getD places.ini, format := .ini scriptName }
  else
    { path := options.settingsPath.getD places.packaged, format := .document }

/-- The description of simulated windows that options choose. -/
def windowsPath (places : Places) (options : Options) : String :=
  (options.simulation.bind id).getD places.windows

/-- What a run starts from. -/
def machine (places : Places) (options : Options) (files : List (String × File))
    (tools : List String) (package : Package) (desktop : Kwin.Desktop) : Machine where
  files := files
  tools := tools
  package := package
  desktop := desktop
  loader := loader places options
  simulation := { path := windowsPath places options }

/-! ## Levels -/

/-- An act whose records below a level are dropped. -/
def atLevel {σ α : Type} (level : Level) (a : Act σ α) : Act σ α := fun s =>
  let o := a.run s
  { o with log := o.log.filter fun r => level.rank ≤ r.level.rank }

/-- The level that settings ask for. -/
def levelOf (settings : Settings) : Level := if settings.showDebug then .debug else .info

/-! ## Stages -/

/-- Writes a line of the program itself. -/
def say (level : Level) (message : String) : Act Machine Unit := .log level .root message

/-- Reports the dependencies. The exit status says whether one that is required is missing. -/
def check : Act Machine Nat := do
  let findings := (← .read).findings
  Dependency.report findings
  say .info (Dependency.summary findings)
  return if Dependency.isCritical findings then 1 else 0

/-- The first loading of the settings. A refusal ends the program with an exit status. -/
def load : Act Machine (Option Nat) := do
  let c := Machine.controller false
  match ← (c.loader.run (Loader.load (← .read).settingsFile)).attempt with
  | .ok () => return none
  | .error (.missingSettings path) =>
    say .error (Fault.missingSettings path).message
    return some 1
  | .error (.settings fault) =>
    say .error ("Configuration Error: " ++ fault.message)
    return some 1
  | .error fault => .fail fault

/-- Says where the windows come from. -/
def introduce (simulate : Bool) : Act Machine Unit := do
  let m ← .read
  if simulate then
    say .info ("Running in SIMULATION MODE. Reading windows from " ++ m.simulation.path)
  else say .info (Dependency.summary m.findings)

/-- Makes the first pass and starts the monitor. Failing to list the windows ends the program with
an exit status. -/
def launch (simulate : Bool) : Act Machine (Option Nat) := do
  let c := Machine.controller simulate
  introduce simulate
  c.prepare
  match ← c.start.attempt with
  | .ok () => return none
  | .error (.source text) =>
    say .error ("Could not read the window list: " ++ text)
    return some 1
  | .error fault => .fail fault

def sleep : Act Machine Unit :=
  .change fun m =>
    { m with desktop := { m.desktop with pauses := m.desktop.pauses ++ [.ofInt 1] } }

/-- Sleeps as long as the monitor runs, until an interruption comes in the last of some sleeps. -/
def idle : Nat → Act Machine Unit
  | 0 => return
  | n + 1 => do
    if (← .read).monitor.running then
      sleep
      if n = 0 then say .info "Shutting down..."
      idle n

def welcome : Act Machine Unit := say .info "WindowOpacity is running. Press Ctrl+C to exit."

/-- Waits for the interruption and stops the monitor. -/
def linger (sleeps : Nat) : Act Machine Unit := do
  welcome
  idle sleeps
  (Machine.controller false).stop

/-! ## The run -/

/-- The course of a run, for whoever runs a stage at a level and knows what comes after the settings
are loaded: the work of the monitor, with its windows simulated or not. The result is the level of
the log and the exit status, which is absent for a run that was interrupted; a fault is kept with
the level at which it came. -/
def course {μ : Type → Type} [Monad μ]
    (stage : {α : Type} → Level → Act Machine α → μ (Except Fault α))
    (work : Level → Bool → μ (Except Fault (Option Nat))) (options : Options) :
    μ (Level × Except Fault (Option Nat)) := do
  if options.checkOnly then
    return (.info, (← stage .info check).map some)
  match ← stage .info load with
  | .error fault => return (.info, .error fault)
  | .ok (some status) => return (.info, .ok (some status))
  | .ok none =>
    let simulate := options.simulation.isSome
    match ← stage .info (Machine.controller simulate).settings with
    | .error fault => return (.info, .error fault)
    | .ok settings => return (levelOf settings, ← work (levelOf settings) simulate)

/-- How a run goes on after the settings are loaded. The result is the exit status if it ends of its
own accord. -/
def proceed (simulate : Bool) (rounds : List (Act Machine Unit)) (sleeps : Nat) :
    Act Machine (Option Nat) := do
  match ← launch simulate with
  | some status => return some status
  | none =>
    (Machine.controller simulate).watch.rounds rounds
    linger sleeps
    return none

/-- Runs a stage at a level and keeps its fault. -/
def runStage {α : Type} (level : Level) (a : Act Machine α) : Act Machine (Except Fault α) :=
  (atLevel level a).attempt

/-- A run with given options. The monitor works for some rounds, each after something that happens
on the machine, and the interruption comes in the last of some sleeps. -/
def run (options : Options) (rounds : List (Act Machine Unit)) (sleeps : Nat) :
    Act Machine (Level × Except Fault (Option Nat)) :=
  course runStage (fun level simulate => runStage level (proceed simulate rounds sleeps)) options

end Translucency.Program
