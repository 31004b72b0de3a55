import Translucency.Act
import Translucency.Number.Decimal
import Translucency.Value

/-!
# The desktop behind the window manager

The window manager is reached by commands. What a desktop replies to a command may depend on the
command and on all that was asked of it before, and on nothing else, so a desktop of any behaviour
is one function. The desktops that are used to try the program out reply from queues, one for each
kind of request. What was asked, the scripts handed over and the pauses made are kept in order.

A command that does not finish has no result, and that is no fault. There are two faults. A script
may find no place to be stored in, and a command may put out bytes that are no text.
-/

namespace Translucency.Kwin

/-- What becomes of a command. -/
inductive Reply where
  /-- It ran to its end, with a status and its output. -/
  | finished (status : Int) (output errors : String)
  /-- It ran to its end, and its output or its errors are bytes that are no text. -/
  | undecodable
  | timeout
  | notStarted (reason : String)
deriving DecidableEq

inductive Request where
  | load
  | unload
  | run
  | stop
  | journal
  | other
deriving DecidableEq

/-- A command with the seconds it may take. -/
structure Call where
  words : List String
  limit : Binary64
deriving DecidableEq

/-- How a host replies to a call after the calls before it. -/
abbrev Host := List Call → Call → Reply

structure Desktop where
  /-- The seconds on its clock. -/
  now : Binary64 := .ofInt 0
  host : Host := fun _ _ => .finished 0 "" ""
  /-- Where a script that was handed over is found. -/
  scriptPath : String := ""
  /-- Why no script can be stored, if so it is. -/
  full : Option String := none
  /-- The levels of nesting that there is room for where its messages are read. -/
  room : Nat := Value.usualRoom
  calls : List Call := []
  scripts : List String := []
  pauses : List Binary64 := []

/-- The result of a command that ran to its end. -/
structure Result where
  status : Int
  output : String

/-- Whether a command ran to its end without an error. -/
def succeeded : Option Result → Bool
  | some r => r.status == 0
  | none => false

namespace Request

/-- The request that a command makes, by its first or fourth word. -/
def ofWords (words : List String) : Request :=
  let method := (words[3]?.getD "").toList
  if words.head? = some "journalctl" then journal
  else if ".loadScript".toList.isSuffixOf method then load
  else if ".unloadScript".toList.isSuffixOf method then unload
  else if ".run".toList.isSuffixOf method then run
  else if ".stop".toList.isSuffixOf method then stop
  else other

end Request

/-- The host that replies from queues: the first command of a kind takes the first reply, the next
one the second, and the last reply is repeated. A kind without replies succeeds silently. -/
def Host.ofQueues (queues : Request → List Reply) : Host := fun past call =>
  let request := Request.ofWords call.words
  let queue := queues request
  let turn := past.countP fun c => Request.ofWords c.words == request
  (queue[turn]?.or queue.getLast?).getD (.finished 0 "" "")

namespace Desktop

/-- Asks for a command and takes the reply. -/
def ask (call : Call) : Act Desktop Reply := do
  let d ← .read
  .change fun d => { d with calls := d.calls ++ [call] }
  return d.host d.calls call

/-- Says in the log how a command went. -/
def report (name : String) (text : String) : Act Desktop Unit :=
  .log .debug .command ("Command " ++ name ++ " " ++ text)

def perform (words : List String) (limit : Binary64) : Act Desktop (Option Result) := do
  .log .debug .command ("Running command: " ++ " ".intercalate words)
  let name := words.head?.getD ""
  match ← ask ⟨words, limit⟩ with
  | .timeout =>
    report name ("timed out after " ++ String.ofList limit.shortText ++ "s")
    return none
  | .notStarted reason =>
    report name ("failed: " ++ reason)
    return none
  | .undecodable => .fail (.mishap .undecodable)
  | .finished status output errors =>
    if status ≠ 0 then
      report name
        ("returned " ++ toString status ++ ": " ++ String.ofList (errors.toList.take 200))
    return some ⟨status, output⟩

/-- Hands a script over, if it can be stored. -/
def place (script : String) : Act Desktop Unit := do
  match (← .read).full with
  | some reason => .fail (.broken reason)
  | none => .change fun d => { d with scripts := d.scripts ++ [script] }

def pause (seconds : Binary64) : Act Desktop Unit :=
  .change fun d => { d with pauses := d.pauses ++ [seconds] }

end Desktop

end Translucency.Kwin
