import Translucency.Number.Numeral
import Translucency.Text.Base64
import Translucency.Text.LowerCase
import Translucency.Value
import Translucency.Yaml.Cursor
import Translucency.Yaml.Stamp

/-!
# Values of YAML scalars

How the text of a scalar is read once its tag is known. The spellings that give a scalar its tag
are narrower than what is read here, so only a tag in the document can bring a text to a mishap.
-/

namespace Translucency.Yaml

def mishap {α : Type} (m : Mishap) : Except Failure α := .error (.mishap m)

/-- A reading that fails with a mishap where there is nothing. -/
def orMishap {α : Type} (m : Mishap) : Option α → Except Failure α
  | some a => .ok a
  | none => mishap m

/-- A numeral without its underscores, split at its sign. -/
def bareNumeral (s : List Char) : Except Failure (Bool × List Char) :=
  match s.filter (· != '_') with
  | [] => mishap .outOfBounds
  | t => .ok (Numeral.splitSign t)

/-- A number from its places to base sixty, the first place first. -/
def sixtieths (places : List Int) : Int := places.foldl (fun n place => 60 * n + place) 0

/-- An integer: binary, hexadecimal, octal after a zero, to base sixty, or decimal. -/
def integer (s : List Char) : Except Failure Int := do
  let (negative, t) ← bareNumeral s
  let sign (n : Int) : Int := if negative then -n else n
  let read (base : Nat) (t : List Char) : Except Failure Int :=
    (orMishap .badText (Numeral.integer? base t)).map sign
  match t with
  | [] => mishap .outOfBounds
  | ['0'] => return 0
  | '0' :: 'b' :: u => read 2 u
  | '0' :: 'x' :: u => read 16 u
  | '0' :: _ => read 8 t
  | _ =>
    if t.contains ':' then
      let places ← (Text.pieces ':' t).mapM fun p => orMishap .badText (Numeral.integer? 10 p)
      return sign (sixtieths places)
    else read 10 t

/-- The sum of places to base sixty, the last place first, each rounded on its way. A base beyond
the floating point numbers is a mishap. -/
def floatSixtieths (base : Nat) (sum : Binary64) : List Binary64 → Except Failure Binary64
  | [] => .ok sum
  | place :: rest =>
    let factor := Binary64.ofInt base
    if factor.isFinite then floatSixtieths (base * 60) (sum.add (place.mul factor)) rest
    else mishap .tooLarge

/-- A floating point number: infinite, undefined, to base sixty, or decimal. -/
def float (s : List Char) : Except Failure Binary64 := do
  let (negative, t) ← bareNumeral (Text.lower s)
  let sign (x : Binary64) : Binary64 := if negative then x.neg else x
  if t = ".inf".toList then return .infinity negative
  else if t = ".nan".toList then return .nan
  else if t.contains ':' then
    let places ← (Text.pieces ':' t).mapM fun p => orMishap .badText (Numeral.float? p)
    return sign (← floatSixtieths 1 (.finite false 0) places.reverse)
  else return sign (← orMishap .badText (Numeral.float? t))

/-- A boolean word, in any case. -/
def boolean (s : List Char) : Except Failure Bool :=
  let word := String.ofList (Text.lower s)
  if ["yes", "true", "on"].contains word then .ok true
  else if ["no", "false", "off"].contains word then .ok false
  else mishap .unknownWord

/-- Bytes in base 64, in an ASCII text. -/
def binary (s : List Char) : Except Failure (List UInt8) :=
  if s.all fun c => c.toNat < 128 then
    match Text.base64? s with
    | some bytes => .ok bytes
    | none => .error .malformed
  else .error .malformed

/-- A date or a time that the calendar has. -/
def timestamp (s : List Char) : Except Failure Timestamp := do
  let (t, _) ← orMishap .lacksMember (stamp? s)
  if t.isValid then return t else mishap .badText

end Translucency.Yaml
