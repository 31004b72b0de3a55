import Translucency.Json.Text
import Translucency.Number.Numeral
import Translucency.Value

/-!
# Reading JSON

A JSON text holds one value, with blanks around it. Beyond the standard, the words `NaN`, `Infinity`
and `-Infinity` are numbers. A number without fraction and exponent is an integer, and the text is
malformed if that has more digits than are read anywhere. Of several members of one name the last
counts, in the place of the first. A byte order mark is no blank.

Each list and each object takes a level on the stack of the reader, and what is left of that is up
to whoever calls it. A text that opens one level more than there is room for is not malformed: the
reader gives up in a way of its own, and does so before it looks any further.
-/

namespace Translucency.Json

/-- Why a text gives no value. -/
inductive Failure where
  | malformed
  /-- An array or an object that there is no room for. -/
  | tooDeep (opened : String)
deriving DecidableEq

/-- How the reader says that it ran out of room. -/
def tooDeepText (opened : String) : String :=
  "maximum recursion depth exceeded while decoding a JSON " ++ opened ++ " from a unicode string"

/-- What was read; where that is nothing, the text is malformed. -/
def orMalformed {α : Type} : Option α → Except Failure α
  | some a => .ok a
  | none => .error .malformed

/-- The blanks between parts. -/
def isSpace (c : Char) : Bool := c == ' ' || c == '\t' || c == '\n' || c == '\r'

def skipSpaces (s : List Char) : List Char := s.dropWhile isSpace

/-- What follows a word that has to come next. -/
def after? (word s : List Char) : Option (List Char) :=
  if word.isPrefixOf s then some (s.drop word.length) else none

/-- The digits that come next, and what follows. -/
def digits (s : List Char) : List Char × List Char :=
  (s.takeWhile Char.isDigit, s.dropWhile Char.isDigit)

/-- The whole part of a number: no zero stands before another digit. -/
def whole? (s : List Char) : Option (List Char × List Char) :=
  match s with
  | [] => none
  | '0' :: rest => some (['0'], rest)
  | c :: rest => if c.isDigit then some (c :: (digits rest).1, (digits rest).2) else none

/-- The digits after a point, if there are any. -/
def fraction (s : List Char) : Option (List Char) × List Char :=
  match s with
  | '.' :: rest =>
    let (ds, rest) := digits rest
    if ds.isEmpty then (none, s) else (some ds, rest)
  | _ => (none, s)

/-- The exponent after its letter, if there is one. -/
def exponent (s : List Char) : Option Int × List Char :=
  match s with
  | e :: rest =>
    if e = 'e' ∨ e = 'E' then
      let (negative, rest) := Numeral.splitSign rest
      let (ds, rest) := digits rest
      if ds.isEmpty then (none, s) else (some (Numeral.signed negative (Numeral.value ds)), rest)
    else (none, s)
  | [] => (none, s)

/-- A number, after its sign. -/
def number? (negative : Bool) (s : List Char) : Option (Value × List Char) := do
  let (whole, s) ← whole? s
  let (fraction, s) := fraction s
  let (exponent, s) := exponent s
  match fraction, exponent with
  | none, none =>
    if Numeral.digitLimit < whole.length then none
    else return (.int (Numeral.signed negative (Numeral.value whole)), s)
  | _, _ =>
    let ds := fraction.getD []
    let x := Binary64.ofDecimal negative (Numeral.value (whole ++ ds))
      (exponent.getD 0 - ds.length)
    return (.float x, s)

def scalar? (s : List Char) : Option (Value × List Char) :=
  match s with
  | '"' :: rest => (string? rest).map fun r => (.text (String.ofList r.1), r.2)
  | 'n' :: _ => (after? "null".toList s).map (.null, ·)
  | 't' :: _ => (after? "true".toList s).map (.bool true, ·)
  | 'f' :: _ => (after? "false".toList s).map (.bool false, ·)
  | 'N' :: _ => (after? "NaN".toList s).map (.float .nan, ·)
  | 'I' :: _ => (after? "Infinity".toList s).map (.float (.infinity false), ·)
  | '-' :: 'I' :: _ => (after? "-Infinity".toList s).map (.float (.infinity true), ·)
  | '-' :: rest => number? true rest
  | _ => number? false s

mutual

/-- The value that comes next, with room for so many levels. -/
def readValue (room fuel : Nat) (s : List Char) : Except Failure (Value × List Char) :=
  match fuel with
  | 0 => .error .malformed
  | fuel + 1 =>
    match s with
    | '[' :: rest =>
      match room with
      | 0 => .error (.tooDeep "array")
      | room + 1 =>
        match skipSpaces rest with
        | ']' :: rest => .ok (.list [], rest)
        | rest => do
          let (items, rest) ← readItems room fuel rest
          return (.list items, rest)
    | '\x7b' :: rest =>
      match room with
      | 0 => .error (.tooDeep "object")
      | room + 1 =>
        match skipSpaces rest with
        | '\x7d' :: rest => .ok (.map [], rest)
        | rest => do
          let (members, rest) ← readMembers room fuel [] rest
          return (.map members, rest)
    | _ => orMalformed (scalar? s)

/-- The items of a list from a value on. -/
def readItems (room fuel : Nat) (s : List Char) : Except Failure (List Value × List Char) :=
  match fuel with
  | 0 => .error .malformed
  | fuel + 1 => do
    let (v, rest) ← readValue room fuel s
    match skipSpaces rest with
    | ',' :: rest =>
      let (more, rest) ← readItems room fuel (skipSpaces rest)
      return (v :: more, rest)
    | ']' :: rest => return ([v], rest)
    | _ => .error .malformed

/-- The members of a map from a name on, put after those read before. -/
def readMembers (room fuel : Nat) (before : List (Value × Value)) (s : List Char) :
    Except Failure (List (Value × Value) × List Char) :=
  match fuel with
  | 0 => .error .malformed
  | fuel + 1 =>
    match s with
    | '"' :: rest => do
      let (name, rest) ← orMalformed (string? rest)
      let rest ← orMalformed (after? [':'] (skipSpaces rest))
      let (v, rest) ← readValue room fuel (skipSpaces rest)
      let members := Value.put (.text (String.ofList name)) v before
      match skipSpaces rest with
      | ',' :: rest => readMembers room fuel members (skipSpaces rest)
      | '\x7d' :: rest => return (members, rest)
      | _ => .error .malformed
    | _ => .error .malformed

end

/-- The value that a text holds, with room for so many levels inside the outermost one. Every step
of nesting takes a character. -/
def read (room : Nat) (s : List Char) : Except Failure Value := do
  let (v, rest) ← readValue (room + 1) (2 * s.length + 2) (skipSpaces s)
  if (skipSpaces rest).isEmpty then .ok v else .error .malformed

/-- The value that a text holds, if it is read with the usual room. -/
def read? (s : List Char) : Option Value := (read Value.usualRoom s).toOption

end Translucency.Json
