import Translucency.Number.Binary64

/-!
# Decimal texts of binary64 numbers

Two texts of a number are in use. The *shortest* text has the fewest digits that read back to the
number, and among those the nearest; it is positional while the first digit stands between the
fourth place after the point and the sixteenth before it, and has an exponent of at least two
digits otherwise. The *fixed* text has a given number of places after the point.
-/

namespace Translucency.Binary64

/-! ## The shortest digits -/

/-- Digits and the exponent of the last of them: the value is `digits * 10 ^ exponent`. -/
structure Decimal where
  digits : Nat
  exponent : Int

/-- The exponent of the first decimal digit of a positive magnitude. Every positive magnitude is
at least `10 ^ (-324)`. -/
def leadingExponent (rank : Nat) : Int :=
  (Nat.toDigits 10 (grains rank * Nat.pow 10 324 / one)).length - 325

/-- The decimal with its last digit at `10 ^ exponent` that reads back to the magnitude, the
nearer one if both neighbours do, the even one of two equally near; none if neither does. A
decimal reads back if it lies between the midpoints to the neighbouring magnitudes; the midpoints
themselves belong to the even rank. -/
def nearestOn? (rank : Nat) (exponent : Int) : Option Decimal :=
  let up := Nat.pow 10 (-exponent).toNat
  let unit := one * Nat.pow 10 exponent.toNat
  let size := grains rank * up
  let low := (grains rank + grains (rank - 1)) * up
  let high := (grains rank + grains (rank + 1)) * up
  let reads (n : Nat) : Bool :=
    let twice := 2 * (n * unit)
    (low < twice && twice < high) || (rank % 2 == 0 && (low == twice || twice == high))
  let floor := size / unit
  let rest := 2 * (size % unit)
  let pick (n : Nat) : Option Decimal := some ⟨n, exponent⟩
  match reads floor, reads (floor + 1) with
  | true, true =>
    if rest < unit then pick floor
    else if unit < rest then pick (floor + 1)
    else pick (floor + floor % 2)
  | true, false => pick floor
  | false, true => pick (floor + 1)
  | false, false => none

/-- The shortest decimal of a positive magnitude: seventeen digits always suffice. -/
def shortest (rank : Nat) : Decimal :=
  let lead := leadingExponent rank
  ((List.range 17).findSome? fun (more : Nat) => nearestOn? rank (lead - more)).getD ⟨0, 0⟩

/-! ## Layout -/

/-- The mantissa digits of a decimal, without zeros at the end. -/
def Decimal.mantissa (d : Decimal) : List Char :=
  ((Nat.toDigits 10 d.digits).reverse.dropWhile (· == '0')).reverse

/-- How many digits stand before the point in positional notation; zero or less if none do. -/
def Decimal.point (d : Decimal) : Int := (Nat.toDigits 10 d.digits).length + d.exponent

def Decimal.layout (d : Decimal) : List Char :=
  let ds := d.mantissa
  let point := d.point
  if -4 < point ∧ point ≤ 16 then
    if point ≤ 0 then '0' :: '.' :: List.replicate (-point).toNat '0' ++ ds
    else
      let n := point.toNat
      if ds.length ≤ n then ds ++ List.replicate (n - ds.length) '0' ++ ['.', '0']
      else ds.take n ++ '.' :: ds.drop n
  else
    let e := point - 1
    let es := Nat.toDigits 10 e.natAbs
    let tail := (if e < 0 then '-' else '+') :: List.replicate (2 - es.length) '0' ++ es
    match ds with
    | [] => []
    | [d] => d :: 'e' :: tail
    | d :: more => d :: '.' :: more ++ 'e' :: tail

/-- A minus sign for negative numbers. -/
def signText (negative : Bool) : List Char := if negative then ['-'] else []

def shortText : Binary64 → List Char
  | .nan => "nan".toList
  | .infinity negative => signText negative ++ "inf".toList
  | .finite negative rank =>
    signText negative ++
      if rank.val = 0 then "0.0".toList else (shortest rank).layout

/-- The text of a number with `places` digits after the point, at least one. -/
def fixedText (places : Nat) : Binary64 → List Char
  | .nan => "nan".toList
  | .infinity negative => signText negative ++ "inf".toList
  | .finite negative rank =>
    let scale := Nat.pow 10 places
    let n := roundDiv (grains rank * scale) one
    let tail := Nat.toDigits 10 (n % scale)
    signText negative ++ Nat.toDigits 10 (n / scale) ++
      '.' :: List.replicate (places - tail.length) '0' ++ tail

end Translucency.Binary64
