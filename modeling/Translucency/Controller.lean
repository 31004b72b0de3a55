import Translucency.Monitor
import Translucency.Opacity.Policy
import Translucency.Settings.Loader

/-!
# The controller

The controller gives every window the configured opacity: those that are there at the start in one
pass, and each later one when the monitor announces it. It keeps no setting; whatever it needs it
reads at the moment of the event, so a changed settings file counts from the next event on. Each
reading looks at the file anew.
-/

namespace Translucency

/-- Where the parts of a controller lie in the state of the program. -/
structure Controller (σ : Type) where
  loader : Part σ Loader
  /-- The settings file as it is now. -/
  settingsFile : σ → File
  cache : Part σ Exclusion.Cache
  monitor : Part σ Monitor
  source : Source σ

namespace Controller

variable {σ : Type} (c : Controller σ)

/-- The settings as they stand in the file now. -/
def settings : Act σ Settings := do
  let file := c.settingsFile (← .read)
  c.loader.run (Loader.current file)

/-- The matcher that goes by the settings. -/
def matcher : Exclusion.Matcher σ where
  cache := c.cache
  list := do return some (← c.settings).exclusions
  visible := do return (← c.settings).showDebug

/-- Gives a window the configured opacity. The result is the window after that and the opacity, if
it was set. -/
def applyTo (window : Window) : Act σ (Window × Option Binary64) := do
  let percent := (← c.settings).opacity.value
  let (after, applied) ← Opacity.apply c.matcher c.source.setOpacity (some window) percent
  return (after.getD window, applied)

/-- Gives windows the configured opacity, in order; also how many got it. -/
def applyToEach : List Window → Act σ (List Window × Nat)
  | [] => return ([], 0)
  | window :: rest => do
    let (window, applied) ← c.applyTo window
    let (rest, count) ← applyToEach rest
    return (window :: rest, count + if applied.isSome then 1 else 0)

/-- Gives every window the configured opacity and takes them all as known. -/
def applyToAll : Act σ (List Window) := do
  let (windows, count) ← c.applyToEach (← c.source.list)
  .log .info .controller
    ("Applied opacity to " ++ toString count ++ " of " ++ toString windows.length ++ " windows")
  c.monitor.run (Monitor.mark windows)
  return windows

/-- Handles a window that has appeared. -/
def appeared (window : Window) : Act σ Window := do
  if (← c.settings).showNames then
    let identity ← .lift window.identity
    .log .info .controller
      ("New window: '" ++ String.ofList identity ++ "' (caption: " ++ window.caption.quoted ++ ")")
  return (← c.applyTo window).1

/-- The monitor that tells the controller of new windows. -/
def watch : Watch σ where
  monitor := c.monitor
  source := c.source
  listeners := [c.appeared]

/-- Sets the monitor up with the configured interval. -/
def prepare : Act σ Unit := do
  let interval := (← c.settings).interval
  c.monitor.change fun m => { m with interval := interval }

/-- The first pass, and the start of the monitor. -/
def start : Act σ Unit := do
  let _ ← c.applyToAll
  c.monitor.run Monitor.start

def stop : Act σ Unit := c.monitor.run Monitor.stop

end Controller

end Translucency
