import Translucency.Controller
import Translucency.Dependency
import Translucency.Kwin.Source
import Translucency.Source.Simulation

/-!
# The machine the program runs on

Everything the program touches: the files by path, the desktop, what is installed, and the parts of
the program that have a state. A controller works on a machine with one of the two window sources.
-/

namespace Translucency

structure Machine where
  files : List (String × File) := []
  tools : List String := []
  package : Package := .unusable
  desktop : Kwin.Desktop := {}
  loader : Loader
  cache : Exclusion.Cache := {}
  monitor : Monitor := {}
  simulation : Simulation
  kwin : Kwin := {}

namespace Machine

def file (m : Machine) (path : String) : File := (m.files.lookup path).getD .absent

/-- The machine with a file at a path. -/
def write (m : Machine) (path : String) (file : File) : Machine :=
  { m with files := (path, file) :: m.files }

@[simp] theorem file_write (m : Machine) (path other : String) (file : File) :
    (m.write path file).file other = if other = path then file else m.file other := by
  grind [Machine.file, Machine.write]

def settingsFile (m : Machine) : File := m.file m.loader.path

def findings (m : Machine) : List Finding := Dependency.findings m.package m.tools

/-- The simulated windows, listed from the file at their path. -/
def simulated : Source Machine where
  name := Simulation.sourceName
  list m :=
    let o := (Simulation.list (m.file m.simulation.path)).run m.simulation
    ⟨o.result, { m with simulation := o.state }, o.log⟩
  setOpacity w x m :=
    let o := (Simulation.setOpacity w x).run m.simulation
    ⟨o.result, { m with simulation := o.state }, o.log⟩
  available m := m.simulation.health.available

/-- The windows of the window manager. -/
def actual : Source Machine :=
  Source.on
    { get := fun m => (m.kwin, m.desktop)
      set := fun s m => { m with kwin := s.1, desktop := s.2 } }
    Kwin.source

/-- The controller of a machine, with simulated windows or actual ones. -/
def controller (simulate : Bool) : Controller Machine where
  loader := { get := fun m => m.loader, set := fun l m => { m with loader := l } }
  settingsFile := settingsFile
  cache := { get := fun m => m.cache, set := fun c m => { m with cache := c } }
  monitor := { get := fun m => m.monitor, set := fun w m => { m with monitor := w } }
  source := if simulate then simulated else actual

end Machine

end Translucency
