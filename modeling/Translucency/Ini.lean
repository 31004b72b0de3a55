import Translucency.Text.Blank
import Translucency.Text.Pieces

/-!
# Ini files

An ini file is a sequence of sections, each a header in brackets and then lines `name=value` or
`name:value`. Blank space around names and values does not count. A line that starts with `#` or
`;` is a comment. A line indented deeper than the line that began an entry continues its value, and
so do blank lines, as long as something follows. A repeated header goes on with its section, and a
repeated name replaces its value. Every entry of the section `DEFAULT` is also an entry of each
other section that does not have one of that name.

A line before the first header ends the reading at once; other lines that make no sense are
collected and reported together.
-/

namespace Translucency.Ini

open Text

/-- Why a text was refused. -/
inductive Fault where
  /-- A line before the first header. -/
  | noHeader (number : Nat) (line : List Char)
  /-- Lines that are neither headers nor entries, by number. -/
  | badLines (lines : List (Nat × List Char))

/-- The entries of a section: each name with the lines of its value. -/
abbrev Entries := List (String × List (List Char))

abbrev Sections := List (String × Entries)

structure Reader where
  sections : Sections := []
  /-- The section that lines belong to. -/
  current : Option String := none
  /-- The entry that indented lines continue. -/
  entry : Option String := none
  /-- The indentation of the last line that continued nothing. -/
  indent : Nat := 0
  /-- The lines that made no sense, the latest first. -/
  bad : List (Nat × List Char) := []

/-! ## Lines -/

/-- The name in a header: what stands between the first character and the last closing bracket. -/
def header? : List Char → Option String
  | '[' :: s =>
    let inner := (s.reverse.dropWhile (· != ']')).drop 1
    if inner.isEmpty then none else some (String.ofList inner.reverse)
  | _ => none

/-- Whether a character separates a name from its value. -/
def isDelimiter (c : Char) : Bool := c == '=' || c == ':'

/-- The name and the value of an entry, split at the first delimiter. -/
def entry? (line : List Char) : Option (String × List Char) :=
  match line.dropWhile (!isDelimiter ·) with
  | [] => none
  | _ :: value =>
    some (String.ofList (trimRight (line.takeWhile (!isDelimiter ·))), trim value)

/-- Whether a line without the blanks around it is a comment. -/
def isComment (line : List Char) : Bool := line.head? == some '#' || line.head? == some ';'

/-! ## Sections -/

/-- Changes the value under a name, or adds one. -/
def alter {α : Type} (name : String) (change : Option α → α) :
    List (String × α) → List (String × α)
  | [] => [(name, change none)]
  | (n, a) :: rest =>
    if n = name then (n, change (some a)) :: rest else (n, a) :: alter name change rest

@[simp] theorem lookup_alter {α : Type} (name other : String) (change : Option α → α)
    (l : List (String × α)) :
    (alter name change l).lookup other =
      if other = name then some (change (l.lookup name)) else l.lookup other := by
  induction l with
  | nil => grind [alter]
  | cons e l ih =>
    grind [alter]

namespace Reader

/-- Adds a line to the entry at hand, if there is one. -/
def extend (r : Reader) (line : List Char) : Reader :=
  match r.current, r.entry with
  | some current, some entry =>
    let lengthen (es : Option Entries) : Entries :=
      alter entry (fun lines => lines.getD [] ++ [line]) (es.getD [])
    { r with sections := alter current lengthen r.sections }
  | _, _ => r

/-- Whether a line with some indentation continues the entry at hand. -/
def continues (r : Reader) (indent : Nat) : Bool :=
  r.current.isSome && r.entry.isSome && r.indent < indent

/-- Turns to a section. -/
def enter (r : Reader) (name : String) : Reader :=
  { r with
    sections := alter name (·.getD []) r.sections
    current := some name
    entry := none }

/-- Sets an entry. A name must not be empty. -/
def put (r : Reader) (current name : String) (value : List Char) : Reader :=
  { r with
    sections := alter current (fun es => alter name (fun _ => [value]) (es.getD [])) r.sections
    entry := some name }

def reject (r : Reader) (number : Nat) (line : List Char) : Reader :=
  { r with bad := (number, line) :: r.bad }

def step (r : Reader) (number : Nat) (line : List Char) : Except Fault Reader :=
  let text := trim line
  let indent := (line.takeWhile isBlank).length
  if text.isEmpty then .ok (r.extend [])
  else if isComment text then .ok r
  else if r.continues indent then .ok (r.extend text)
  else
    let r := { r with indent := indent }
    match header? text with
    | some name => .ok (r.enter name)
    | none =>
      match r.current with
      | none => .error (.noHeader number line)
      | some current =>
        match entry? text with
        | none => .ok (r.reject number line)
        | some (name, value) =>
          if name.isEmpty then .ok { r.reject number line with entry := none }
          else .ok (r.put current name value)

def steps (r : Reader) (number : Nat) : List (List Char) → Except Fault Reader
  | [] => .ok r
  | line :: rest => do (← r.step number line).steps (number + 1) rest

end Reader

/-! ## Files -/

/-- The sections of a file, given by its lines. -/
def read (lines : List (List Char)) : Except Fault Sections := do
  let r ← ({} : Reader).steps 1 lines
  if r.bad.isEmpty then return r.sections else throw (.badLines r.bad.reverse)

/-- The value that lines make up, without blanks at its end. -/
def value (lines : List (List Char)) : String := String.ofList (trimRight (join ['\n'] lines))

/-- The section whose entries are in every other one. -/
def commonSection : String := "DEFAULT"

/-- The entries of a section with their values: its own in order, then the common ones that it
lacks. -/
def entries? (name : String) (sections : Sections) : Option (List (String × String)) := do
  let own ← sections.lookup name
  let common := (sections.lookup commonSection).getD []
  let lacking := common.filter fun e => (own.lookup e.1).isNone
  return (own ++ lacking).map fun e => (e.1, value e.2)

end Translucency.Ini
