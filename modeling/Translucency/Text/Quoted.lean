import Translucency.Text.Digit
import Translucency.Text.Printable

/-!
# Quoted texts

A quoted text stands between single quotes, or between double quotes if it holds a single quote
and no double one. Inside, the quote in use and the backslash are escaped, and so is every
character that is not printable: tab, line feed and carriage return by letter, others by their
code point in two, four or eight hexadecimal digits. Bytes are quoted alike, with every byte
outside printable ASCII escaped and a `b` in front.
-/

namespace Translucency.Text

/-- The quote that encloses a text. -/
def quoteMark (s : List Char) : Char :=
  if s.contains '\'' && !s.contains '"' then '"' else '\''

/-- One character of a text enclosed in a quote. -/
def quotedChar (quote c : Char) : List Char :=
  if c = quote ∨ c = '\\' then ['\\', c]
  else if c = '\t' then ['\\', 't']
  else if c = '\n' then ['\\', 'n']
  else if c = '\r' then ['\\', 'r']
  else if isPrintable c then [c]
  else if c.toNat < 0x100 then '\\' :: 'x' :: hexText 2 c.toNat
  else if c.toNat < 0x10000 then '\\' :: 'u' :: hexText 4 c.toNat
  else '\\' :: 'U' :: hexText 8 c.toNat

def quoted (s : List Char) : List Char :=
  let quote := quoteMark s
  quote :: s.flatMap (quotedChar quote) ++ [quote]

/-- One byte of bytes enclosed in a quote. -/
def quotedByte (quote : Char) (b : UInt8) : List Char :=
  let c := Char.ofNat b.toNat
  if b.toNat < 0x7f then quotedChar quote c else '\\' :: 'x' :: hexText 2 b.toNat

def quotedBytes (bytes : List UInt8) : List Char :=
  let quote := quoteMark (bytes.map fun b => Char.ofNat b.toNat)
  'b' :: quote :: bytes.flatMap (quotedByte quote) ++ [quote]

end Translucency.Text
