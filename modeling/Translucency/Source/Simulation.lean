import Translucency.File
import Translucency.Source.Basic
import Translucency.Source.Health
import Translucency.Text.Blank
import Translucency.Text.Pieces

/-!
# Simulated windows

For development, windows may be described in a text file, one line each:

    class|name|caption|flags

Lines that are blank or start with `#` describe none, and missing fields are empty. A window is
known by its trimmed line together with how many equal lines stand before it, so it keeps its
identity as long as its line stays, whatever else comes and goes. The opacities that were set are
remembered by that.
-/

namespace Translucency

open Text

/-- A source that reads its windows from a file. -/
structure Simulation where
  path : String
  health : Health := {}
  /-- The opacities that were set, by window. -/
  opacities : List (String × Binary64) := []

namespace Simulation

/-! ## Lines -/

/-- The trimmed lines of a text that describe windows. -/
def windowLines (text : List Char) : List (List Char) :=
  ((splitLines text).map trim).filter fun line => !line.isEmpty && line.head? != some '#'

/-- How a window is known by its line and the number of equal lines before it. -/
def idOf (line : List Char) (before : Nat) : String :=
  String.ofList (line ++ '#' :: (toString before).toList)

/-- Lines with how each window is known, after lines that stand before them. -/
def numbered (before : List (List Char)) : List (List Char) → List (String × List Char)
  | [] => []
  | line :: rest => (idOf line (before.count line), line) :: numbered (line :: before) rest

/-- Numbering keeps the lines and their order. -/
@[simp] theorem map_snd_numbered (before lines : List (List Char)) :
    (numbered before lines).map (·.2) = lines := by
  induction lines generalizing before with
  | nil => rfl
  | cons line lines ih => simp [numbered, ih]

def fields (line : List Char) : List (List Char) := (pieces '|' line).map trim

/-- The flags in a field. -/
def flags (field : List Char) : List (List Char) :=
  (pieces ',' field).map fun piece => lower (trim piece)

/-- A field as a name; an empty one is absent. -/
def nameOf (field : List Char) : Value :=
  if field.isEmpty then .null else .text (String.ofList field)

/-- The window that a line describes. -/
def windowOf (opacities : List (String × Binary64)) (id : String) (line : List Char) : Window :=
  let field (k : Nat) : List Char := (fields line)[k]?.getD []
  let flags := flags (field 3)
  { id := id
    resourceClass := nameOf (field 0)
    resourceName := nameOf (field 1)
    caption := nameOf (field 2)
    isNormal := !flags.contains "special".toList
    isFullScreen := flags.contains "fullscreen".toList
    opacity := .float ((opacities.lookup id).getD (.ofInt 1)) }

def windows (opacities : List (String × Binary64)) (text : List Char) : List Window :=
  (numbered [] (windowLines text)).map fun e => windowOf opacities e.1 e.2

/-! ## Operations -/

def sourceName : String := "simulation"

/-- Where the health of the source is kept. -/
def healthPart : Part Simulation Health where
  get s := s.health
  set h s := { s with health := h }

def note (error : Option String) : Act Simulation Unit :=
  healthPart.run (Health.note .simulation sourceName error)

/-- The windows that the file describes. No file describes no windows. -/
def list (file : File) : Act Simulation (List Window) := do
  match file with
  | .absent => return []
  | .directory _ =>
    let path := String.ofList (quoted (← .read).path.toList)
    let error := "[Errno 21] Is a directory: " ++ path
    note (some ("Error reading simulation file: " ++ error))
    .fail (.source error)
  | .file _ content =>
    let text ← .lift ((File.decode content).mapError .mishap)
    let found := windows (← .read).opacities text
    note none
    return found

/-- The opacities with one of them set. -/
def put (id : String) (x : Binary64) : List (String × Binary64) → List (String × Binary64)
  | [] => [(id, x)]
  | e :: rest => if e.1 = id then (id, x) :: rest else e :: put id x rest

@[simp] theorem lookup_put (id other : String) (x : Binary64) (l : List (String × Binary64)) :
    (put id x l).lookup other = if other = id then some x else l.lookup other := by
  induction l with
  | nil => grind [put]
  | cons e l ih =>
    grind [put]

def setOpacity (w : Window) (x : Binary64) : Act Simulation Unit := do
  .change fun s => { s with opacities := put w.id x s.opacities }
  .log .info .simulation
    ("Simulated opacity " ++ String.ofList (x.fixedText 2) ++ " for window " ++
      w.displayName.plain)

/-- The source with the file it reads. -/
def source : Source (Simulation × File) where
  name := sourceName
  list := do
    let (_, file) ← .read
    Part.first.run (list file)
  setOpacity w x := Part.first.run (setOpacity w x)
  available s := s.1.health.available

end Simulation

end Translucency
