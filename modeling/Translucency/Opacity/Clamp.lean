import Translucency.Act
import Translucency.Number.Numeral
import Translucency.Printing

/-!
# From a configured percentage to an opacity

The percentage may be any value. It is read as a floating point number, the way a numeral in a text
is; a value that cannot be read so, or that is infinite or undefined, counts as the default. The
number is then limited and divided by a hundred.

An integer beyond the floating point numbers is a mishap. Where the default is taken the value is
printed into the log, and a value that cannot be printed stops it all.
-/

namespace Translucency

/-- The floating point number that a value is read as. -/
def Value.toBinary64 : Value → Except Mishap Binary64
  | .bool b => .ok (.ofInt (if b then 1 else 0))
  | .int n =>
    let x := Binary64.ofInt n
    if x.isFinite then .ok x else .error .tooLarge
  | .float x => .ok x
  | .text s =>
    match Numeral.float? s.toList with
    | some x => .ok x
    | none => .error .badText
  | .bytes b =>
    let asciiOnly := b.map fun c => if c.toNat < 128 then Char.ofNat c.toNat else '?'
    match Numeral.float? asciiOnly with
    | some x => .ok x
    | none => .error .badText
  | _ => .error .wrongKind

namespace Opacity

def defaultPercent : Nat := 70

def leastPercent : Nat := 30

def greatestPercent : Nat := 100

def percent (n : Nat) : Binary64 := .ofInt n

/-- A number limited to the allowed percentages. -/
def limit (x : Binary64) : Binary64 :=
  if x.below (leastPercent * Binary64.one) then percent leastPercent
  else if x.above (greatestPercent * Binary64.one) then percent greatestPercent
  else x

/-- A value with null and booleans, which configure nothing, replaced by the default. -/
def configured : Value → Value
  | .null => .int defaultPercent
  | .bool _ => .int defaultPercent
  | v => v

variable {σ : Type}

/-- The default in place of a value, with a word on what is wrong with it. -/
def replace (room : Nat) (flaw : String) (v : Value) : Act σ Binary64 := do
  let text ← .lift (v.quote room)
  .log .debug .policy (flaw ++ " opacity percentage " ++ text ++ ", using default")
  return percent defaultPercent

/-- The percentage that a value stands for, before it is limited. -/
def readPercent (raw : Value) (room : Nat) : Act σ Binary64 := do
  let v := configured raw
  match v.toBinary64 with
  | .ok x => if x.isFinite then return x else replace room "Non-finite" v
  | .error .tooLarge => .fail (.mishap .tooLarge)
  | .error _ => replace room "Invalid" v

/-- The opacity for a configured percentage, with room for so many levels to print it. -/
def clamp (raw : Value) (room : Nat := Value.usualRoom) : Act σ Binary64 := do
  return (limit (← readPercent raw room)).divNat 100

end Opacity

end Translucency
