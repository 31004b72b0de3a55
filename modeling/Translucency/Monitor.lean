import Translucency.Source.Basic

/-!
# Watching for new windows

The monitor lists the windows again and again and tells its listeners of each one that was not
there at the last successful listing. The windows that are there become the known ones before the
listeners are told, so a listener that fails costs no window its announcement and none is announced
twice; a closed window is forgotten, so its identifier may come back as a new window. A failed
listing changes nothing.

Watching goes on in rounds, each a listing and a wait, until the monitor is stopped or its source
goes out of service. What is done to the thread that watches, and to the event that wakes it, is
kept in order.
-/

namespace Translucency

/-- What is done to the thread of the monitor and to the event it waits for. -/
inductive Signal where
  | clear
  | set
  | start
  | join
deriving DecidableEq

structure Monitor where
  /-- The seconds between two listings. -/
  interval : Binary64 := .ofInt 2
  /-- The identifiers of the windows that were there last, each once. -/
  known : List String := []
  running : Bool := false
  waits : List Binary64 := []
  signals : List Signal := []

namespace Monitor

/-- The known windows with some more. -/
def learn (known : List String) (windows : List Window) : List String :=
  (known ++ windows.map (·.id)).eraseDups

/-- The windows that are not known. -/
def fresh (known : List String) (windows : List Window) : List Window :=
  windows.filter fun w => !known.contains w.id

@[simp] theorem mem_learn {known : List String} {windows : List Window} {id : String} :
    id ∈ learn known windows ↔ id ∈ known ∨ ∃ w ∈ windows, w.id = id := by
  simp [learn, List.mem_eraseDups]

@[simp] theorem mem_fresh {known : List String} {windows : List Window} {w : Window} :
    w ∈ fresh known windows ↔ w ∈ windows ∧ w.id ∉ known := by
  simp [fresh]

/-- Takes windows as known. -/
def mark (windows : List Window) : Act Monitor Unit :=
  .change fun m => { m with known := learn m.known windows }

/-- Starts watching, unless that is going on. -/
def start : Act Monitor Unit :=
  .change fun m =>
    if m.running then m
    else { m with running := true, signals := m.signals ++ [.clear, .start] }

/-- Stops watching, if that is going on. -/
def stop : Act Monitor Unit :=
  .change fun m =>
    if m.running then { m with running := false, signals := m.signals ++ [.set, .join] }
    else m

end Monitor

/-- A monitor at work: where its state is, what it watches, and whom it tells. A listener gives the
window back as it leaves it. -/
structure Watch (σ : Type) where
  monitor : Part σ Monitor
  source : Source σ
  listeners : List (Window → Act σ Window)

namespace Watch

variable {σ : Type} (w : Watch σ)

/-- Tells one listener of a window. If the listener fails, that is logged and the window is as it
was. -/
def tell (listener : Window → Act σ Window) (window : Window) : Act σ Window := do
  match ← (listener window).attempt with
  | .ok window => return window
  | .error fault =>
    .write {
      level := .error
      channel := .monitor
      message :=
        "Error executing window appeared callback for " ++ window.displayName.plain
      fault := some fault }
    return window

/-- Tells all listeners of a window, in order. -/
def announce (window : Window) : Act σ Window :=
  w.listeners.foldlM (fun window listener => tell listener window) window

def announceAll : List Window → Act σ (List Window)
  | [] => return []
  | window :: rest => do
    let window ← w.announce window
    return window :: (← announceAll rest)

/-- Lists the windows once and announces the new ones. -/
def poll : Act σ (List Window) := do
  let windows ← w.source.list
  let known := (← w.monitor.read).known
  w.monitor.change fun m => { m with known := Monitor.learn [] windows }
  w.announceAll (Monitor.fresh known windows)

/-- Says in the log why a listing failed. -/
def report (fault : Fault) : Act σ Unit :=
  match fault with
  | .source text =>
    .log .warning .monitor ("Window source '" ++ w.source.name ++ "' failed: " ++ text)
  | fault =>
    .write { level := .error, channel := .monitor, message := "Error in window monitor",
             fault := some fault }

/-- One round: a listing, and a wait unless the source went out of service, which stops the
monitor. -/
def round : Act σ Unit := do
  match ← w.poll.attempt with
  | .ok _ => pure ()
  | .error fault => w.report fault
  if w.source.available (← .read) then
    w.monitor.change fun m => { m with waits := m.waits ++ [m.interval] }
  else
    .log .error .monitor
      ("Window source '" ++ w.source.name ++ "' disabled, stopping monitor")
    w.monitor.change fun m => { m with running := false }

/-- Rounds as long as the monitor runs, each after something that happens in the world. -/
def rounds : List (Act σ Unit) → Act σ Unit
  | [] => return
  | before :: rest => do
    if (← w.monitor.read).running then
      before
      w.round
      rounds rest

end Watch

end Translucency
