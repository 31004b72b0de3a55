/-!
# Base64

Bytes written six bits to a character. Characters outside the alphabet are passed over. Padding
ends the bytes once it completes a group of four; bits that are left over then are dropped. A text
that stops inside a group without its padding is refused.
-/

namespace Translucency.Text

/-- The six bits of a character. -/
def sextet? (c : Char) : Option Nat :=
  if 'A' ≤ c ∧ c ≤ 'Z' then some (c.toNat - 'A'.toNat)
  else if 'a' ≤ c ∧ c ≤ 'z' then some (c.toNat - 'a'.toNat + 26)
  else if '0' ≤ c ∧ c ≤ '9' then some (c.toNat - '0'.toNat + 52)
  else if c = '+' then some 62
  else if c = '/' then some 63
  else none

/-- The bytes from a place on, where `place` characters of a group were read, the last of them left
`bits` over, and `pads` padding marks came since. -/
def base64From (place bits pads : Nat) : List Char → Option (List UInt8)
  | [] => if place = 0 then some [] else none
  | c :: s =>
    if c = '=' then
      if 2 ≤ place then
        if 4 ≤ place + pads + 1 then some [] else base64From place bits (pads + 1) s
      else base64From place bits pads s
    else
      match sextet? c with
      | none => base64From place bits pads s
      | some v =>
        match place with
        | 0 => base64From 1 v 0 s
        | 1 => (base64From 2 (v % 16) 0 s).map ((bits * 4 + v / 16).toUInt8 :: ·)
        | 2 => (base64From 3 (v % 4) 0 s).map ((bits * 16 + v / 4).toUInt8 :: ·)
        | _ => (base64From 0 0 0 s).map ((bits * 64 + v).toUInt8 :: ·)

/-- The bytes that a text holds. -/
def base64? (s : List Char) : Option (List UInt8) := base64From 0 0 0 s

end Translucency.Text
