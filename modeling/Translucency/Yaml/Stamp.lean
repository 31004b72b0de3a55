import Translucency.Timestamp

/-!
# Dates and times in a YAML text

A date is year, month and day with hyphens between. A time follows after a `T` or blanks: hour,
minute and second, then perhaps a fraction of which six digits count, then perhaps an offset. A
text is taken for a date on its own only if month and day have two digits; where the document says
that it is one, one digit will do.
-/

namespace Translucency.Yaml

/-- The number that ASCII digits spell. -/
def decimalNumber (s : List Char) : Nat := s.foldl (fun n c => 10 * n + (c.toNat - '0'.toNat)) 0

/-- Between `least` and `most` digits, as many as there are. -/
def digits? (least most : Nat) (s : List Char) : Option (List Char × List Char) :=
  let ds := (s.take most).takeWhile Char.isDigit
  if ds.length < least then none else some (ds, s.drop ds.length)

/-- The text after a character that has to come next. -/
def expect? (c : Char) : List Char → Option (List Char)
  | [] => none
  | d :: s => if d = c then some s else none

def isBlankChar (c : Char) : Bool := c == ' ' || c == '\t'

/-- An offset from universal time, which is all that may follow. -/
def stampOffset? (s : List Char) : Option Int :=
  match s with
  | ['Z'] => some 0
  | sign :: s =>
    if sign = '+' ∨ sign = '-' then do
      let (hours, s) ← digits? 1 2 s
      let minutes ← match s with
        | [] => some 0
        | ':' :: s => do
          let (minutes, s) ← digits? 2 2 s
          if s.isEmpty then some (decimalNumber minutes) else none
        | _ => none
      let total : Int := decimalNumber hours * 60 + minutes
      return if sign = '-' then -total else total
    else none
  | [] => none

/-- The microseconds that the digits of a fraction stand for. -/
def microseconds (fraction : List Char) : Nat :=
  let ds := fraction.take 6
  decimalNumber (ds ++ List.replicate (6 - ds.length) '0')

/-- A time of day, which is all that may follow. -/
def stampTime? (s : List Char) : Option ClockTime := do
  let (hour, s) ← digits? 1 2 s
  let s ← expect? ':' s
  let (minute, s) ← digits? 2 2 s
  let s ← expect? ':' s
  let (second, s) ← digits? 2 2 s
  let (fraction, s) := match s with
    | '.' :: s => (s.takeWhile Char.isDigit, s.dropWhile Char.isDigit)
    | s => ([], s)
  let offset ←
    if s.isEmpty then some none
    else (stampOffset? (s.dropWhile isBlankChar)).map some
  return ⟨decimalNumber hour, decimalNumber minute, decimalNumber second,
    microseconds fraction, offset⟩

/-- What separates a time from its date. -/
def afterDate? : List Char → Option (List Char)
  | [] => none
  | c :: s =>
    if c = 'T' ∨ c = 't' then some s
    else if isBlankChar c then some (s.dropWhile isBlankChar)
    else none

/-- The fields of a date and time, and whether month and day have two digits each. The calendar is
not consulted. One line feed at the end does no harm. -/
def stamp? (s : List Char) : Option (Timestamp × Bool) := do
  let s := if s.getLast? = some '\n' then s.dropLast else s
  let (year, s) ← digits? 4 4 s
  let s ← expect? '-' s
  let (month, s) ← digits? 1 2 s
  let s ← expect? '-' s
  let (day, s) ← digits? 1 2 s
  let time ← if s.isEmpty then some none else ((afterDate? s).bind stampTime?).map some
  return (⟨decimalNumber year, decimalNumber month, decimalNumber day, time⟩,
    month.length == 2 && day.length == 2)

end Translucency.Yaml
