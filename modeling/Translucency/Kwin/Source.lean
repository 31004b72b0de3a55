import Translucency.Kwin.Journal
import Translucency.Source.Basic
import Translucency.Source.Health

/-!
# Windows of the window manager

Each operation sends a script: any old script of the same name is unloaded, the new one is loaded,
run, stopped and unloaded again. Two tools can send it; the first one is used until it fails to
load a script, and from then on the second. An operation that fails counts against the health of
the source before it is reported. Nobody counts an operation that a fault stops on the way.
-/

namespace Translucency

/-- The source that talks to the window manager. -/
structure Kwin where
  tool : String := "qdbus6"
  health : Health := {}

namespace Kwin

def firstTool : String := "qdbus6"

/-- The tool that is used when the first one fails. -/
def secondTool : String := "qdbus"

/-- The source and the desktop it talks to. -/
abbrev Seat := Kwin × Desktop

/-- Where the health of the source is kept. -/
def healthPart : Part Seat Health where
  get s := s.1.health
  set h s := ({ s.1 with health := h }, s.2)

def sourceName : String := "kwin_scripting"

/-- Counts a success or a failure. -/
def note (error : Option String) : Act Seat Unit :=
  healthPart.run (Health.note .kwin sourceName error)

def perform (words : List String) (limit : Binary64) : Act Seat (Option Result) :=
  Part.second.run (Desktop.perform words limit)

/-- Sends a message to the window manager with a tool. -/
def send (tool : String) (words : List String) (limit : Binary64) : Act Seat (Option Result) :=
  perform (tool :: "org.kde.KWin" :: words) limit

def halfSecond : Binary64 := .ofRatio false 1 2

/-- The number of a loaded script in the output of a command; minus one is none. -/
def scriptNumber? (output : String) : Option String :=
  let s := Text.trim output.toList
  let digits := s.dropWhile (· == '-')
  if s ≠ "-1".toList ∧ !digits.isEmpty ∧ digits.all Text.isDigit then some (String.ofList s)
  else none

/-- Loads the script under a name with a tool, in place of an old one. -/
def loadWith (tool name : String) : Act Seat (Option String) := do
  let _ ← send tool ["/Scripting", "org.kde.kwin.Scripting.unloadScript", name] (.ofInt 1)
  let path := (← .read).2.scriptPath
  let result ← send tool ["/Scripting", "org.kde.kwin.Scripting.loadScript", path, name] (.ofInt 2)
  if succeeded result then return result.bind fun r => scriptNumber? r.output
  else return none

/-- Loads the script under a name, with the second tool if the first one fails. -/
def load (name : String) : Act Seat (Option String) := do
  let tool := (← .read).1.tool
  match ← loadWith tool name with
  | some number => return some number
  | none =>
    if tool = firstTool then
      .change fun s => ({ s.1 with tool := secondTool }, s.2)
      loadWith secondTool name
    else return none

/-- Runs a script under a name. The result is nothing if that failed, and otherwise the payloads it
printed, up to an awaited one; none are read if none is awaited. -/
def runScript (script name : String) (awaited : Option String) :
    Act Seat (Option (List String)) := do
  let started := (← .read).2.now
  Part.second.run (Desktop.place script)
  match ← load name with
  | none =>
    .log .debug .kwin "Failed to load KWin script or invalid script id"
    return none
  | some number =>
    let tool := (← .read).1.tool
    let path := "/Scripting/Script" ++ number
    let ran ← send tool [path, "org.kde.kwin.Script.run"] (.ofInt 2)
    let _ ← send tool [path, "org.kde.kwin.Script.stop"] halfSecond
    let _ ← send tool ["/Scripting", "org.kde.kwin.Scripting.unloadScript", name] halfSecond
    if !succeeded ran then return none
    match awaited with
    | none => return some []
    | some payload => Part.second.run (readJournal name payload started)

/-! ## Operations -/

def list : Act Seat (List Window) := do
  let name := marker .listing (← .read).2.now
  let output ← runScript (listingScript name) name (some endWord)
  match (output.map windowPayloads).getD (.error .noOutput) with
  | .error fault =>
    note (some fault.message)
    .fail (.source ("Could not enumerate windows: " ++ fault.message))
  | .ok payloads =>
    note none
    readWindows (← .read).2.room payloads

def setOpacity (w : Window) (opacity : Binary64) : Act Seat Unit := do
  let name := marker .opacity (← .read).2.now
  match ← runScript (opacityScript w.id opacity) name none with
  | none =>
    let error := "opacity script failed for " ++ w.id
    note (some error)
    .fail (.source ("KWin rejected opacity change: " ++ error))
  | some _ => note none

/-- Sets the opacity of a window to a value that is read as a number. -/
def setOpacityValue (w : Window) (opacity : Value) : Act Seat Unit := do
  setOpacity w (← .lift (opacity.toBinary64.mapError .mishap))

/-- The source with the desktop it talks to. -/
def source : Source Seat where
  name := sourceName
  list := list
  setOpacity := setOpacity
  available s := s.1.health.available

end Kwin

end Translucency
