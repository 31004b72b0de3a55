import Translucency.Number.Binary64
import Translucency.Text.Blank
import Translucency.Text.Digit

/-!
# Reading numerals

Integers and floating point numbers are read from text by one set of rules. Digits of every
script count as the ASCII digits of the same value, blanks around a numeral are allowed, and a
single underscore may stand between two digits. The information separators, which count as
blanks elsewhere, do not count as blanks here.

Going between an integer and its decimal digits takes time that grows with the square of their
number, so there is a limit to it in both directions: an integer of more digits is neither read nor
written. Bases that are powers of two have no such limit, and neither has a floating point number.
-/

namespace Translucency.Numeral

open Translucency.Text

/-- The blanks allowed around a numeral. -/
def isMargin (c : Char) : Bool := isBlank c && !(0x1c ≤ c.toNat && c.toNat ≤ 0x1f)

/-- A numeral without the blanks around it, its digits in ASCII. -/
def plain (s : List Char) : List Char :=
  let s := s.dropWhile isMargin
  let s := (s.reverse.dropWhile isMargin).reverse
  s.map fun c => match decimalValue? c with
    | some v => Char.ofNat ('0'.toNat + v)
    | none => c

/-- A leading sign, and whether it is a minus. -/
def splitSign : List Char → Bool × List Char
  | '-' :: s => (true, s)
  | '+' :: s => (false, s)
  | s => (false, s)

def signed (negative : Bool) (n : Nat) : Int := if negative then -(n : Int) else n

/-! ## Integers -/

/-- The value of a digit in a base. -/
def digitIn? (base : Nat) (c : Char) : Option Nat := (hexValue? c).filter (· < base)

/-- Digits with single underscores between them, after the value read so far. -/
def digits? (base : Nat) (value : Nat) : List Char → Option Nat
  | [] => some value
  | '_' :: c :: s => do digits? base (value * base + (← digitIn? base c)) s
  | c :: s => do digits? base (value * base + (← digitIn? base c)) s

def wholeDigits? (base : Nat) : List Char → Option Nat
  | [] => none
  | c :: s => do digits? base (← digitIn? base c) s

/-- The letter that may stand after a leading zero to name a base. -/
def baseLetter? : Nat → Option Char
  | 2 => some 'b'
  | 8 => some 'o'
  | 16 => some 'x'
  | _ => none

/-- The digits without a leading mark of their base, such as `0x`; an underscore may follow it. -/
def dropBaseMark (base : Nat) (s : List Char) : List Char :=
  match s, baseLetter? base with
  | '0' :: c :: rest, some letter =>
    if c.toLower = letter then
      match rest with
      | '_' :: rest => rest
      | rest => rest
    else s
  | _, _ => s

/-- The most decimal digits that an integer may have where it is read or written. -/
def digitLimit : Nat := 4300

/-- Whether a numeral has too many digits to be read in a base. Zeros in front count as well. -/
def isTooLong (base : Nat) (s : List Char) : Bool :=
  base == 10 && digitLimit < s.countP (· != '_')

/-- The integer that a text spells in a base. -/
def integer? (base : Nat) (s : List Char) : Option Int :=
  let (negative, s) := splitSign (plain s)
  let s := dropBaseMark base s
  if isTooLong base s then none else (wholeDigits? base s).map (signed negative)

/-- Whether an integer has few enough digits to be written in decimal. -/
def isShort (n : Int) : Bool := n.natAbs < Nat.pow 10 digitLimit

/-! ## Floating point numbers -/

/-- Whether every underscore stands between two digits; `prev` is the character before. -/
def underscoresBetween (prev : Char) : List Char → Bool
  | [] => prev != '_'
  | c :: s =>
    (if c == '_' then prev.isDigit else prev != '_' || c.isDigit) && underscoresBetween c s

/-- The value of ASCII digits. -/
def value (s : List Char) : Nat := s.foldl (fun n c => 10 * n + (c.toNat - '0'.toNat)) 0

/-- The exponent part of a decimal: `e`, an optional sign and digits, or nothing. -/
def exponent? : List Char → Option Int
  | [] => some 0
  | c :: s =>
    if c = 'e' ∨ c = 'E' then
      let (negative, s) := splitSign s
      if !s.isEmpty && s.all Char.isDigit then some (signed negative (value s)) else none
    else none

/-- The digits of a decimal around an optional point, then the exponent. -/
def decimal? (negative : Bool) (s : List Char) : Option Binary64 :=
  let whole := s.takeWhile Char.isDigit
  let rest := s.dropWhile Char.isDigit
  let (fraction, rest) := match rest with
    | '.' :: rest => (rest.takeWhile Char.isDigit, rest.dropWhile Char.isDigit)
    | rest => ([], rest)
  if whole.isEmpty && fraction.isEmpty then none
  else
    (exponent? rest).map fun e =>
      .ofDecimal negative (value (whole ++ fraction)) (e - fraction.length)

/-- The floating point number that a text spells. -/
def float? (s : List Char) : Option Binary64 :=
  let s := plain s
  if underscoresBetween ' ' s then
    let (negative, s) := splitSign (s.filter (· != '_'))
    let word := String.ofList (s.map Char.toLower)
    if word = "inf" ∨ word = "infinity" then some (.infinity negative)
    else if word = "nan" then some .nan
    else decimal? negative s
  else none

end Translucency.Numeral
