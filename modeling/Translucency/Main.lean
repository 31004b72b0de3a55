import Translucency.Program.Run

/-!
# The command line

The shell around the program: it looks at the files, runs the stages of the program in their course
on what it saw, and prints the log records of each stage. It decides nothing. Between two rounds of
the monitor it sleeps for the configured interval and looks at the files again.

The shell starts no commands, so the desktop of its machine refuses every one of them, and only
simulated windows can be had.
-/

namespace Translucency.Shell

open Program

/-! ## Files -/

/-- Where files are that the arguments do not name. The packaged settings are not on disk. -/
def places : IO Places := do
  let home := (← IO.getEnv "HOME").getD ""
  return {
    packaged := "<packaged settings>"
    ini := home ++ "/.config/kwinrc"
    windows := "/tmp/window_opacity_fake_windows" }

/-- What stands at a path at some time. As long as it stays the same it keeps the time at which it
was first seen. -/
def look (now : Int) (path : String) (before : File) : IO File := do
  match ← (IO.FS.readBinFile path).toBaseIO, before with
  | .ok content, .file _ known => return if content == known then before else .file now content
  | .ok content, _ => return .file now content
  | .error (.noFileOrDirectory ..), _ => return .absent
  | .error _, .directory changed => return .directory changed
  | .error _, _ => return .directory now

/-- The machine after a look at the file at a path. -/
def refresh (now : Int) (path : String) (m : Machine) : IO Machine := do
  return m.write path (← look now path (m.file path))

/-- The paths of the files that options choose, the packaged settings left out. -/
def pathsOnDisk (places : Places) (options : Options) : List String :=
  [(loader places options).path, windowsPath places options].filter (· != places.packaged)

/-! ## Stages -/

/-- A desktop on which no command can be started. -/
def desktop : Kwin.Desktop :=
  { host := fun _ _ => .notStarted "commands cannot be started from here" }

/-- A record as a line of the log. -/
def line (r : Record) : String := r.level.name ++ ":" ++ r.channel.name ++ ":" ++ r.message

/-- Runs a stage, prints its records from a level up, and goes on from the state it left. -/
def stage {α : Type} (level : Level) (act : Act Machine α) :
    StateT Machine IO (Except Fault α) := do
  let o := (atLevel level act).run (← get)
  o.log.forM fun r => IO.eprintln (line r)
  set o.state
  return o.result

/-- An interval in milliseconds. -/
def milliseconds (seconds : Binary64) : UInt32 :=
  (((seconds.mul (.ofInt 1000)).truncate?).getD 0).toNat.toUInt32

/-- Rounds of the monitor until it stops, each after a fresh look at the files. -/
partial def watch (level : Level) (simulate : Bool) (paths : List String) (round : Int) :
    StateT Machine IO Unit := do
  if (← get).monitor.running then
    set (← paths.foldlM (fun m path => refresh round path m) (← get))
    let _ ← stage level (Machine.controller simulate).watch.round
    IO.sleep (milliseconds (← get).monitor.interval)
    watch level simulate paths (round + 1)

/-- The work of the monitor, after a launch that did not end the program. -/
def work (paths : List String) (level : Level) (simulate : Bool) :
    StateT Machine IO (Except Fault (Option Nat)) := do
  let launched ← stage level (launch simulate)
  if let .ok none := launched then
    let _ ← stage level welcome
    watch level simulate paths 1
  return launched

/-- The exit status of a run; a fault is one, too. -/
def exitStatus : Except Fault (Option Nat) → UInt32
  | .ok status => (status.getD 0).toUInt32
  | .error _ => 1

def program (options : Options) (paths : List String) : StateT Machine IO UInt32 := do
  let (_, ended) ← course stage (work paths) options
  return exitStatus ended

end Translucency.Shell

open Translucency in
def main (args : List String) : IO UInt32 := do
  let options := Options.ofArguments args
  let places ← Shell.places
  let paths := Shell.pathsOnDisk places options
  let packaged := [(places.packaged, File.ofText 0 Program.packagedDocument)]
  let machine := Program.machine places options packaged [] (.usable none) Shell.desktop
  let machine ← paths.foldlM (fun m path => Shell.refresh 0 path m) machine
  let (status, _) ← (Shell.program options paths).run machine
  return status
