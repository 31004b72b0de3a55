import Translucency.Json.Reader
import Translucency.Kwin.Desktop
import Translucency.Kwin.Script
import Translucency.Number.Numeral
import Translucency.Opacity.Clamp
import Translucency.Text.Blank
import Translucency.Text.Lines
import Translucency.Text.Pieces
import Translucency.Window

/-!
# Script output in the journal

What a script prints comes back through the journal, among the lines of everybody else. The lines
of a script are told by its marker; what follows the marker is the payload. The journal may be late
or may have dropped lines. So it is looked at several times until the last payload is there, and a
listing is accepted only if its first payload gives a number and that is the number of windows in
it.
-/

namespace Translucency.Kwin

open Text

/-! ## Payloads -/

/-- The payloads in a text: what follows the first marker in each line that has one, trimmed. -/
def payloads (marker : String) (output : String) : List String :=
  (splitLines output.toList).filterMap fun line =>
    (afterFirst? (marker.toList ++ [':']) line).map fun rest => String.ofList (trim rest)

/-- The pauses before the looks at the journal, in hundredths of a second. -/
def pauses : List Nat := [5, 5, 10, 20]

/-- The command that shows the journal since a second before a time. -/
def journalCommand (since : Binary64) : List String :=
  ["journalctl", "--user", "--since", "@" ++ toString ((since.truncate?).getD 0 - 1),
    "--no-pager", "-o", "cat"]

/-- Looks at the journal after each of some pauses, until a payload is there. A look whose command
did not finish shows nothing. -/
def lookAfter (marker awaited : String) (since : Binary64) :
    List Nat → Act Desktop (Option (List String))
  | [] => do
    .log .debug .kwin ("Marker " ++ marker ++ " not found in journal after retries")
    return none
  | hundredths :: rest => do
    Desktop.pause (.ofRatio false hundredths 100)
    match ← Desktop.perform (journalCommand since) (.ofInt 2) with
    | none => lookAfter marker awaited since rest
    | some result =>
      let found := payloads marker result.output
      if found.contains awaited then return some found else lookAfter marker awaited since rest

/-- The payloads of a script that was started at a time, once the awaited one is among them. -/
def readJournal (marker awaited : String) (since : Binary64) :
    Act Desktop (Option (List String)) :=
  lookAfter marker awaited since pauses

/-! ## Listings -/

/-- Why payloads are no listing. -/
inductive ListingFault where
  | noOutput
  | noHeader
  | badCount (payload : String)
  | wrongCount (found : Nat) (expected : Int)
deriving DecidableEq

def ListingFault.message : ListingFault → String
  | noOutput => "window list script produced no output"
  | noHeader => "window list header missing from journal output"
  | badCount payload =>
    "invalid window count " ++ String.ofList (quoted payload.toList)
  | wrongCount found expected =>
    "journal output has " ++ toString found ++ " of " ++ toString expected ++ " windows"

/-- The payloads of the windows in a complete listing. -/
def windowPayloads : List String → Except ListingFault (List String)
  | [] => .error .noHeader
  | header :: rest =>
    if countWord.toList.isPrefixOf header.toList then
      match Numeral.integer? 10 (header.toList.drop countWord.length) with
      | none => .error (.badCount header)
      | some expected =>
        let windows := rest.filter (· != endWord)
        if windows.length = expected then .ok windows
        else .error (.wrongCount windows.length expected)
    else .error .noHeader

/-! ## Windows -/

/-- The window that a message describes. Missing members have defaults; a member of the wrong kind
is a mishap only for the opacity. -/
def windowOfMessage : Value → Except Mishap Window
  | .map members => do
    let member (name : String) : Option Value := Value.lookup? (.text name) members
    let name (name : String) : Value := ((member name).getD .null).orElse .null
    let flag (name : String) : Bool := ((member name).getD .null).truthy
    let opacity ← match (member "opacity").getD .null with
      | .null => .ok (.ofInt 1)
      | v => v.toBinary64
    return {
      id := ((member "id").getD (.text "")).plain
      resourceClass := name "resourceClass"
      resourceName := name "resourceName"
      caption := name "caption"
      isNormal := flag "normalWindow"
      isFullScreen := flag "fullScreen"
      opacity := .float opacity }
  | _ => .error .lacksMember

variable {σ : Type}

/-- The window that a payload describes. A payload that is no JSON is passed over, and one that is
nested deeper than there is room for is a fault of the reader. -/
def readWindow (payload : String) (room : Nat := Value.usualRoom) : Act σ (Option Window) := do
  match Json.read room payload.toList with
  | .error .malformed =>
    .log .debug .kwin
      ("Ignoring unparsable window line: " ++ String.ofList (payload.toList.take 200))
    return none
  | .error (.tooDeep opened) => .fail (.broken (Json.tooDeepText opened))
  | .ok message => return some (← .lift ((windowOfMessage message).mapError .mishap))

def readWindows (room : Nat) : List String → Act σ (List Window)
  | [] => return []
  | payload :: rest => do
    let window ← readWindow payload room
    return window.toList ++ (← readWindows room rest)

end Translucency.Kwin
