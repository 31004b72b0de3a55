import Translucency.Yaml.Stamp

/-!
# Kinds of YAML nodes

A tag says what a node is. A scalar without one that is not quoted gets its tag from its spelling:
the spellings of the null value, of booleans, integers, floating point numbers, dates, the merge
mark and the default mark are the ones of YAML 1.1. Only some spellings are considered for each
first character, so a scalar that matches none of them is a text.
-/

namespace Translucency.Yaml

inductive Tag where
  | null
  | bool
  | int
  | float
  | binary
  | timestamp
  | omap
  | pairs
  | set
  | str
  | seq
  | map
  | merge
  | default
  | other
deriving DecidableEq

namespace Tag

/-- The stem of the tags of the standard. -/
def stem : List Char := "tag:yaml.org,2002:".toList

/-- The tags of the standard by name. -/
def names : List (String × Tag) := [
  ("null", null), ("bool", bool), ("int", int), ("float", float), ("binary", binary),
  ("timestamp", timestamp), ("omap", omap), ("pairs", pairs), ("set", set), ("str", str),
  ("seq", seq), ("map", map), ("merge", merge), ("value", default)]

/-- The tag that a full name stands for. -/
def ofName (name : List Char) : Tag :=
  ((names.find? fun entry => stem ++ entry.1.toList == name).map (·.2)).getD other

/-! ## Spellings -/

/-- Whether a character is a digit or an underscore. -/
def isNumeric (c : Char) : Bool := c.isDigit || c == '_'

/-- A text without a leading sign. -/
def dropSign : List Char → List Char
  | '+' :: s => s
  | '-' :: s => s
  | s => s

/-- Whether a text is an exponent with its sign, or empty. -/
def isExponent : List Char → Bool
  | [] => true
  | e :: sign :: s =>
    (e == 'e' || e == 'E') && (sign == '+' || sign == '-') && !s.isEmpty && s.all Char.isDigit
  | _ => false

/-- Whether a text is a place of a number to base sixty: one digit, or two below sixty. -/
def isSixtieth : List Char → Bool
  | [a] => a.isDigit
  | [a, b] => '0' ≤ a && a ≤ '5' && b.isDigit
  | _ => false

/-- Whether a text is one or more places to base sixty, each after a colon. -/
def isSixtieths (s : List Char) : Bool :=
  let rec go (place : List Char) : List Char → Bool
    | [] => isSixtieth place.reverse
    | c :: s => if c = ':' then isSixtieth place.reverse && go [] s else go (c :: place) s
  match s with
  | ':' :: s => go [] s
  | _ => false

def startsDigit (s : List Char) : Bool := (s.head?.map Char.isDigit).getD false

def spellsFloat (s : List Char) : Bool :=
  let t := dropSign s
  let point (u : List Char) : Bool := match u with
    | '.' :: u => isExponent (u.dropWhile isNumeric)
    | _ => false
  let rest := t.dropWhile isNumeric
  (startsDigit t && point rest) ||
    (startsDigit t && match rest with
      | ':' :: _ =>
        isSixtieths (rest.takeWhile (· != '.')) &&
          match rest.dropWhile (· != '.') with
          | '.' :: u => u.all isNumeric
          | _ => false
      | _ => false) ||
    (match s with
      | '.' :: u => startsDigit u && isExponent (u.dropWhile isNumeric)
      | _ => false) ||
    [".inf", ".Inf", ".INF"].contains (String.ofList t) ||
    [".nan", ".NaN", ".NAN"].contains (String.ofList s)

/-- Spelled like an integer: binary, octal, decimal, hexadecimal or to base sixty. -/
def spellsInt (s : List Char) : Bool :=
  match dropSign s with
  | ['0'] => true
  | '0' :: 'b' :: d :: u => (d :: u).all fun c => c == '0' || c == '1' || c == '_'
  | '0' :: 'x' :: d :: u =>
    (d :: u).all fun c => isNumeric c || ('a' ≤ c && c ≤ 'f') || ('A' ≤ c && c ≤ 'F')
  | '0' :: u => u.all fun c => ('0' ≤ c && c ≤ '7') || c == '_'
  | d :: u =>
    d.isDigit && (u.all isNumeric || isSixtieths (u.dropWhile isNumeric))
  | [] => false

def spellsTimestamp (s : List Char) : Bool :=
  match stamp? s with
  | some (t, full) => t.time.isSome || full
  | none => false

def spellsBool (s : List Char) : Bool :=
  ["yes", "Yes", "YES", "no", "No", "NO", "true", "True", "TRUE", "false", "False", "FALSE",
    "on", "On", "ON", "off", "Off", "OFF"].contains (String.ofList s)

def spellsNull (s : List Char) : Bool :=
  ["~", "null", "Null", "NULL"].contains (String.ofList s)

/-- The tag of a scalar that has none and is not quoted. A line feed at its end, which only a block
can have, is not part of the spelling. -/
def ofSpelling (s : List Char) : Tag :=
  let t := if s.getLast? = some '\n' then s.dropLast else s
  match s with
  | [] => null
  | '\n' :: _ => str
  | c :: _ =>
    if spellsBool t then bool
    else if spellsFloat t then float
    else if spellsInt t then int
    else if t = ['<', '<'] then merge
    else if spellsNull t then null
    else if c.isDigit && spellsTimestamp t then timestamp
    else if t = ['='] then default
    else if t = ['!'] ∨ t = ['&'] ∨ t = ['*'] then other
    else str

end Tag

end Translucency.Yaml
