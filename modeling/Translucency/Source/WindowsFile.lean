import Translucency.File
import Translucency.Settings.Fault

/-!
# Editing the description of simulated windows

A small command of its own adds a window to the description or clears it.
-/

namespace Translucency.WindowsFile

/-- What came of a command: what it printed, its exit status if it failed, and the file. -/
structure Edit where
  output : String
  status : Option Nat
  file : File

def usage (name : String) : String :=
  "Usage: " ++ name ++ " <Window Info> | --clear\n" ++
  "Example: ./simulate_window.py konsole\n" ++
  "Example: ./simulate_window.py 'firefox|Navigator|New Tab - Firefox'\n" ++
  "Example: ./simulate_window.py 'mpv|mpv|video.mkv|fullscreen'\n"

/-- The argument that clears the description. -/
def clearFlag : String := "--clear"

def content : File → ByteArray
  | .file _ bytes => bytes
  | _ => .empty

/-- Runs the command under a name, with its arguments, on the file at a path. Only the first
argument counts. -/
def edit (path name : String) (arguments : List String) (file : File) : Edit :=
  match arguments, file with
  | [], _ => ⟨usage name, some 1, file⟩
  | _ :: _, .directory _ =>
    ⟨"Error writing to simulation file: [Errno 21] Is a directory: " ++ quotedPath path ++ "\n",
      some 1, file⟩
  | info :: _, _ =>
    let changed := (file.changed?.getD 0) + 1
    if info = clearFlag then ⟨"Cleared simulated windows\n", none, .file changed .empty⟩
    else
      ⟨"Added window: '" ++ info ++ "'\n", none,
        .file changed (content file ++ (info ++ "\n").toUTF8)⟩

end Translucency.WindowsFile
