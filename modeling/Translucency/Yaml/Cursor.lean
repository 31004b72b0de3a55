import Translucency.Mishap

/-!
# Reading position in a YAML text

A cursor is the rest of the text with the place where it starts. Line ends were unified when the
file was read, so a carriage return does not occur; next to the line feed, the next line character
and the two Unicode line ends break lines. A byte order mark takes no column.
-/

namespace Translucency.Yaml

/-- Why a YAML text was refused. -/
inductive Failure where
  /-- The text is not well formed, or uses what this reader does not allow. -/
  | malformed
  /-- A scalar could not be read as what its tag says. -/
  | mishap (m : Mishap)
deriving DecidableEq

def isBreak (c : Char) : Bool := c == '\n' || c == '\u0085' || c == '\u2028' || c == '\u2029'

/-- The form in which a break enters a scalar. -/
def breakForm (c : Char) : Char := if c = '\u0085' then '\n' else c

/-- Whether a line ends here. -/
def endsLine : Option Char → Bool
  | none => true
  | some c => isBreak c

/-- Whether a field ends here: at a space or with its line. -/
def endsField (c : Option Char) : Bool := c == some ' ' || endsLine c

/-- Whether a word ends here: at a blank or with its line. -/
def endsWord (c : Option Char) : Bool := c == some '\t' || endsField c

/-- Letters, digits, hyphen and underscore, which make up names. -/
def isNameChar (c : Char) : Bool :=
  c.isDigit || ('A' ≤ c && c ≤ 'Z') || ('a' ≤ c && c ≤ 'z') || c == '-' || c == '_'

/-- The rest of a text and the place where it starts. -/
structure Cursor where
  rest : List Char
  index : Nat
  line : Nat
  column : Nat

namespace Cursor

def start (text : List Char) : Cursor := ⟨text, 0, 0, 0⟩

/-- The character `k` places ahead. -/
def peek (c : Cursor) (k : Nat) : Option Char := c.rest[k]?

def head (c : Cursor) : Option Char := c.rest.head?

def next (c : Cursor) : Cursor :=
  match c.rest with
  | [] => c
  | ch :: rest =>
    if isBreak ch then ⟨rest, c.index + 1, c.line + 1, 0⟩
    else ⟨rest, c.index + 1, c.line, if ch = '\ufeff' then c.column else c.column + 1⟩

def skip (c : Cursor) : Nat → Cursor
  | 0 => c
  | n + 1 => c.next.skip n

/-- The characters of a class that come next, and the place after them. -/
def span (c : Cursor) (p : Char → Bool) : List Char × Cursor :=
  let taken := c.rest.takeWhile p
  (taken, c.skip taken.length)

/-- The place after the characters of a class. -/
def skipWhile (c : Cursor) (p : Char → Bool) : Cursor := (c.span p).2

def skipSpaces (c : Cursor) : Cursor := c.skipWhile (· == ' ')

/-- The end of the line, after a comment if one stands here. -/
def skipComment (c : Cursor) : Cursor :=
  if c.head = some '#' then c.skipWhile (!isBreak ·) else c

/-- Whether three dots or hyphens stand here as a word. -/
def atMark (c : Cursor) (mark : Char) : Bool :=
  c.rest.take 3 == [mark, mark, mark] && endsWord (c.peek 3)

/-- Whether a line here would start or end a document. -/
def atSeparator (c : Cursor) : Bool := c.atMark '-' || c.atMark '.'

end Cursor

end Translucency.Yaml
