import Translucency.Text.Digit

/-!
# JSON strings

A JSON string stands between double quotes. When one is written, everything outside printable ASCII
is escaped, in units of sixteen bits; a character beyond those takes a pair of units. When one is
read, a pair of units is one character again, and control characters have to be escaped.
-/

namespace Translucency.Json

open Text

/-! ## Writing -/

/-- An escaped sixteen-bit unit. -/
def unitText (n : Nat) : List Char := '\\' :: 'u' :: hexText 4 n

def writtenChar (c : Char) : List Char :=
  let n := c.toNat
  if c = '"' ∨ c = '\\' then ['\\', c]
  else if c = '\n' then ['\\', 'n']
  else if c = '\r' then ['\\', 'r']
  else if c = '\t' then ['\\', 't']
  else if c = '\x08' then ['\\', 'b']
  else if c = '\x0c' then ['\\', 'f']
  else if 0x20 ≤ n ∧ n ≤ 0x7e then [c]
  else if n < 0x10000 then unitText n
  else
    unitText (0xd800 + (n - 0x10000) / 0x400) ++ unitText (0xdc00 + (n - 0x10000) % 0x400)

/-- A string in JSON, in printable ASCII. -/
def written (s : List Char) : List Char := '"' :: s.flatMap writtenChar ++ ['"']

/-! ## Reading -/

/-- The character that a letter after a backslash stands for. -/
def escaped? : Char → Option Char
  | '"' => some '"'
  | '\\' => some '\\'
  | '/' => some '/'
  | 'b' => some '\x08'
  | 'f' => some '\x0c'
  | 'n' => some '\n'
  | 'r' => some '\r'
  | 't' => some '\t'
  | _ => none

/-- A sixteen-bit unit of four hexadecimal digits. -/
def unit? : List Char → Option (Nat × List Char)
  | a :: b :: c :: d :: s => do
    let a ← hexValue? a
    let b ← hexValue? b
    let c ← hexValue? c
    let d ← hexValue? d
    return (((a * 16 + b) * 16 + c) * 16 + d, s)
  | _ => none

/-- Whether a unit opens a pair. -/
def isHigh (n : Nat) : Bool := 0xd800 ≤ n && n ≤ 0xdbff

/-- Whether a unit closes a pair. -/
def isLow (n : Nat) : Bool := 0xdc00 ≤ n && n ≤ 0xdfff

/-- The character of a unit on its own; half of a pair gives the replacement character. -/
def unitChar (n : Nat) : Char := if isHigh n || isLow n then '\ufffd' else Char.ofNat n

def pairChar (high low : Nat) : Char :=
  Char.ofNat (0x10000 + (high - 0xd800) * 0x400 + (low - 0xdc00))

/-- The character of the units after `\u`. -/
def unitsChar? (s : List Char) : Option (Char × List Char) := do
  let (n, s) ← unit? s
  let alone := some (unitChar n, s)
  if isHigh n then
    match s with
    | '\\' :: 'u' :: t =>
      match unit? t with
      | some (m, rest) => if isLow m then some (pairChar n m, rest) else alone
      | none => alone
    | _ => alone
  else alone

/-- The rest of a string up to its closing quote, and what follows. -/
def readString : Nat → List Char → Option (List Char × List Char)
  | 0, _ => none
  | fuel + 1, s =>
    match s with
    | [] => none
    | '"' :: rest => some ([], rest)
    | '\\' :: 'u' :: rest => do
      let (c, rest) ← unitsChar? rest
      let (more, rest) ← readString fuel rest
      return (c :: more, rest)
    | '\\' :: e :: rest => do
      let c ← escaped? e
      let (more, rest) ← readString fuel rest
      return (c :: more, rest)
    | c :: rest =>
      if c.toNat < 0x20 ∨ c = '\\' then none
      else do
        let (more, rest) ← readString fuel rest
        return (c :: more, rest)

/-- The string whose opening quote was read. Every step takes a character. -/
def string? (s : List Char) : Option (List Char × List Char) := readString (s.length + 1) s

end Translucency.Json
