import Translucency.Json.Text
import Translucency.Number.Decimal

/-!
# Scripts for the window manager

Two scripts are sent to the window manager. One prints the list of windows to the journal: a count,
a line for each window and an end, each after the same marker. The other sets the opacity of one
window, which it knows by a string literal, so the identifier of a window must not be able to end
that literal early.
-/

namespace Translucency.Kwin

inductive Occasion where
  | listing
  | opacity

def Occasion.word : Occasion → String
  | listing => "ENUM"
  | opacity => "SET"

/-- The marker of a script: its occasion and the time in milliseconds. -/
def marker (occasion : Occasion) (now : Binary64) : String :=
  let millis := ((now.mul (.ofInt 1000)).truncate?).getD 0
  "WINDOW_OPACITY_" ++ occasion.word ++ "_" ++ toString millis

/-- What opens the line with the number of windows. -/
def countWord : String := "COUNT:"

/-- What stands in the last line of a listing. -/
def endWord : String := "END"

/-- The script that lists the windows. -/
def listingScript (marker : String) : String :=
  "\nconst windows = workspace.windowList ? workspace.windowList() : workspace.clientList();\n" ++
  "print(\"" ++ marker ++ ":COUNT:\" + windows.length);\n" ++
  "for (let i = 0; i < windows.length; i++) \x7b\n" ++
  "    const w = windows[i];\n" ++
  "    print(\"" ++ marker ++ ":\" + JSON.stringify(\x7b\n" ++
  "        id: String(w.internalId),\n" ++
  "        resourceClass: w.resourceClass ? String(w.resourceClass) : null,\n" ++
  "        resourceName: w.resourceName ? String(w.resourceName) : null,\n" ++
  "        caption: w.caption ? String(w.caption) : null,\n" ++
  "        normalWindow: !!w.normalWindow,\n" ++
  "        fullScreen: !!w.fullScreen,\n" ++
  "        opacity: w.opacity\n" ++
  "    \x7d));\n" ++
  "\x7d\n" ++
  "print(\"" ++ marker ++ ":END\");\n"

/-- What stands before the literal in the script that sets an opacity. -/
def opacityScriptHead : String :=
  "\nconst windows = workspace.windowList ? workspace.windowList() : workspace.clientList();\n" ++
  "for (let i = 0; i < windows.length; i++) \x7b\n" ++
  "    if (String(windows[i].internalId) === "

/-- What stands after the literal in the script that sets an opacity. -/
def opacityScriptTail (opacity : String) : String :=
  ") \x7b\n" ++
  "        windows[i].opacity = " ++ opacity ++ ";\n" ++
  "    \x7d\n" ++
  "\x7d\n"

/-- The script that sets the opacity of a window, to two decimal places. -/
def opacityScript (id : String) (opacity : Binary64) : String :=
  opacityScriptHead ++ String.ofList (Json.written id.toList) ++
    opacityScriptTail (String.ofList (opacity.roundPlaces 2).shortText)

end Translucency.Kwin
