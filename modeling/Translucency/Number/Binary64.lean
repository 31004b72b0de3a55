/-!
# Binary floating point numbers, exactly

Opacities, intervals and times are IEEE 754 binary64 numbers, and their texts and comparisons are
observable to the last bit. They are kept here as exact data, so that an arithmetic step is a
statement about natural numbers.

A finite magnitude is known by its *rank* in the ascending list of all finite magnitudes: rank 0
is zero, rank 1 is the least positive magnitude, and the order of ranks is the order of
magnitudes. The rank is also what the standard stores in the lower 63 bits. Every finite
magnitude is a whole number of *grains* of size `2 ^ (-1074)`, so sums and comparisons of numbers
are sums and comparisons of integers, and every operation is an exact quotient followed by
`nearestRank`, the one place that rounds.
-/

namespace Translucency

inductive Binary64 where
  | nan
  | infinity (negative : Bool)
  | finite (negative : Bool) (rank : Fin 0x7ff0000000000000)
deriving DecidableEq

namespace Binary64

/-! ## Grains -/

/-- The size of one, in grains. -/
def one : Nat := Nat.pow 2 1074

/-- The magnitude of a rank, in grains: up to `2 ^ 53` ranks count grains, and from there on each
block of `2 ^ 52` ranks doubles the step. -/
def grains (rank : Nat) : Nat :=
  let block := Nat.pow 2 52
  if rank < block then rank else (block + rank % block) * Nat.pow 2 (rank / block - 1)

/-- A quotient rounded to the nearest whole number, a half to the even one. -/
def roundDiv (num den : Nat) : Nat :=
  let whole := num / den
  let rest := 2 * (num % den)
  if rest < den then whole
  else if den < rest then whole + 1
  else whole + whole % 2

/-- The rank nearest to `num / den`, ties to the even rank. A quotient beyond the finite numbers
gets a rank beyond them. -/
def nearestRank (num den : Nat) : Nat :=
  let scaled := num * one
  let block := (scaled / den).log2 - 52
  block * Nat.pow 2 52 + roundDiv scaled (den * Nat.pow 2 block)

/-- The number nearest to `num / den`. -/
def ofRatio (negative : Bool) (num den : Nat) : Binary64 :=
  let rank := nearestRank num den
  if h : rank < 0x7ff0000000000000 then .finite negative ⟨rank, h⟩ else .infinity negative

/-- The number nearest to an integer. -/
def ofInt (n : Int) : Binary64 := ofRatio (n < 0) n.natAbs 1

/-- The number nearest to `m * 10 ^ e`. The two tests keep the powers small: a number with that
many digits before or after the point is beyond the finite numbers or below half a grain. -/
def ofDecimal (negative : Bool) (m : Nat) (e : Int) : Binary64 :=
  let size := (Nat.toDigits 10 m).length + e
  if m = 0 ∨ size < -330 then .finite negative ⟨0, by decide⟩
  else if 330 < size then .infinity negative
  else if 0 ≤ e then ofRatio negative (m * Nat.pow 10 e.toNat) 1
  else ofRatio negative m (Nat.pow 10 (-e).toNat)

/-! ## Words -/

/-- The number that a 64-bit word stands for. -/
def ofBits (word : Nat) : Binary64 :=
  let negative := word / Nat.pow 2 63 % 2 = 1
  let rank := word % Nat.pow 2 63
  if h : rank < 0x7ff0000000000000 then .finite negative ⟨rank, h⟩
  else if rank = 0x7ff0000000000000 then .infinity negative
  else .nan

/-- The 64-bit word of a number. -/
def toBits : Binary64 → Nat
  | .nan => 0x7ff8000000000000
  | .infinity negative => (if negative then Nat.pow 2 63 else 0) + 0x7ff0000000000000
  | .finite negative rank => (if negative then Nat.pow 2 63 else 0) + rank.val

/-! ## Order -/

/-- Whether a number is neither infinite nor undefined. -/
def isFinite : Binary64 → Bool
  | .finite _ _ => true
  | _ => false

/-- The signed size of a finite number, in grains. -/
def signedGrains (negative : Bool) (rank : Nat) : Int :=
  if negative then -(grains rank : Int) else grains rank

/-- Whether a number lies strictly below a size in grains; never so for the undefined number. -/
def below (x : Binary64) (bound : Int) : Bool :=
  match x with
  | .nan => false
  | .infinity negative => negative
  | .finite negative rank => signedGrains negative rank < bound

/-- Whether a number lies strictly above a size in grains; never so for the undefined number. -/
def above (x : Binary64) (bound : Int) : Bool :=
  match x with
  | .nan => false
  | .infinity negative => !negative
  | .finite negative rank => bound < signedGrains negative rank

/-- Whether a number has exactly a size in grains. -/
def hasSize (x : Binary64) (size : Int) : Bool :=
  match x with
  | .finite negative rank => signedGrains negative rank == size
  | _ => false

/-- Equality of numbers as sizes: the two zeros are equal. The undefined number counts as equal
to itself, so that a table has at most one entry for it. -/
def sameSize : Binary64 → Binary64 → Bool
  | .nan, .nan => true
  | .infinity a, .infinity b => a == b
  | x, .finite negative rank => x.hasSize (signedGrains negative rank)
  | _, _ => false

def isZero (x : Binary64) : Bool := x.hasSize 0

/-! ## Arithmetic -/

/-- The sum, rounded. An exact zero is negative only if both operands are. -/
def add : Binary64 → Binary64 → Binary64
  | .nan, _ => .nan
  | _, .nan => .nan
  | .infinity a, .infinity b => if a = b then .infinity a else .nan
  | .infinity a, _ => .infinity a
  | _, .infinity b => .infinity b
  | .finite a x, .finite b y =>
    let sum := signedGrains a x + signedGrains b y
    ofRatio (if sum = 0 then a && b else sum < 0) sum.natAbs one

/-- The product, rounded. -/
def mul : Binary64 → Binary64 → Binary64
  | .nan, _ => .nan
  | _, .nan => .nan
  | .infinity a, .infinity b => .infinity (a != b)
  | .infinity a, .finite b y => if y.val = 0 then .nan else .infinity (a != b)
  | .finite a x, .infinity b => if x.val = 0 then .nan else .infinity (a != b)
  | .finite a x, .finite b y => ofRatio (a != b) (grains x * grains y) (one * one)

/-- The quotient by a natural number, rounded. -/
def divNat (x : Binary64) (d : Nat) : Binary64 :=
  match x with
  | .finite negative rank => ofRatio negative (grains rank) (one * d)
  | other => other

def neg : Binary64 → Binary64
  | .nan => .nan
  | .infinity a => .infinity (!a)
  | .finite a x => .finite (!a) x

/-- The integer part, towards zero; none for a number that is not finite. -/
def truncate? : Binary64 → Option Int
  | .finite negative rank =>
    let whole := grains rank / one
    some (if negative then -(whole : Int) else whole)
  | _ => none

/-- The number rounded to `places` decimal places, a half to the even neighbour. -/
def roundPlaces (places : Nat) : Binary64 → Binary64
  | .finite negative rank =>
    let scale := Nat.pow 10 places
    ofRatio negative (roundDiv (grains rank * scale) one) scale
  | other => other

end Binary64

end Translucency
