import Translucency.Text.Digit

/-!
# Dates and times

A settings document may hold dates and times. No setting takes one, but they may stand as keys,
so they have an equality and a text. Two times with offsets are equal if they name the same
instant; a time with an offset never equals one without.
-/

namespace Translucency

/-- A time of day to the microsecond, with an offset from universal time in minutes if given. -/
structure ClockTime where
  hour : Nat
  minute : Nat
  second : Nat
  micro : Nat
  offset : Option Int

/-- A date, with a time of day if given. -/
structure Timestamp where
  year : Nat
  month : Nat
  day : Nat
  time : Option ClockTime

namespace Timestamp

def isLeap (year : Nat) : Bool := year % 4 == 0 && (year % 100 != 0 || year % 400 == 0)

def daysIn (year month : Nat) : Nat :=
  match month with
  | 2 => if isLeap year then 29 else 28
  | 4 | 6 | 9 | 11 => 30
  | _ => 31

/-- Whether the fields name a moment: the calendar has the date, the clock has the time, and the
offset is less than a day. -/
def isValid (t : Timestamp) : Bool :=
  1 ≤ t.year && t.year ≤ 9999 && 1 ≤ t.month && t.month ≤ 12 &&
    1 ≤ t.day && t.day ≤ daysIn t.year t.month &&
    match t.time with
    | none => true
    | some c =>
      c.hour < 24 && c.minute < 60 && c.second < 60 &&
        match c.offset with
        | none => true
        | some minutes => minutes.natAbs < 24 * 60

/-- The number of days before a date, counted from the first day of year one. -/
def dayNumber (year month day : Nat) : Nat :=
  let past := year - 1
  365 * past + past / 4 - past / 100 + past / 400 +
    (List.range (month - 1)).foldl (fun days m => days + daysIn year (m + 1)) 0 + (day - 1)

/-- The microseconds from the start of year one to a date and time, read at its offset. -/
def instant (t : Timestamp) (c : ClockTime) : Int :=
  let minutes : Int := (dayNumber t.year t.month t.day * 24 + c.hour) * 60 + c.minute
  ((minutes - c.offset.getD 0) * 60 + c.second) * 1000000 + c.micro

/-- Equality of moments. -/
def same (a b : Timestamp) : Bool :=
  match a.time, b.time with
  | none, none => a.year == b.year && a.month == b.month && a.day == b.day
  | some x, some y => x.offset.isSome == y.offset.isSome && a.instant x == b.instant y
  | _, _ => false

def padded (width n : Nat) : List Char :=
  let s := Text.decimalText n
  List.replicate (width - s.length) '0' ++ s

def offsetText (minutes : Int) : List Char :=
  (if minutes < 0 then '-' else '+') :: padded 2 (minutes.natAbs / 60) ++
    ':' :: padded 2 (minutes.natAbs % 60)

/-- The text of a time of day: microseconds only if there are any. -/
def clockText (c : ClockTime) : List Char :=
  padded 2 c.hour ++ ':' :: padded 2 c.minute ++ ':' :: padded 2 c.second ++
    (if c.micro = 0 then [] else '.' :: padded 6 c.micro) ++
    (c.offset.map offsetText).getD []

def text (t : Timestamp) : List Char :=
  padded 4 t.year ++ '-' :: padded 2 t.month ++ '-' :: padded 2 t.day ++
    match t.time with
    | none => []
    | some c => ' ' :: clockText c

end Timestamp

end Translucency
