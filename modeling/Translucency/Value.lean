import Translucency.Number.Decimal
import Translucency.Text.Pieces
import Translucency.Text.Quoted
import Translucency.Timestamp

/-!
# Dynamic values

Settings come from documents, windows come from messages, and both may hold anything. What they
hold is one type: the scalars, lists, and maps in insertion order. Equality of keys is equality
of sizes across booleans, integers and floating point numbers, so `1`, `1.0` and `true` are one
key. A map is built by `Value.put`, which keeps the place and the spelling of a key that is
already there.
-/

namespace Translucency

inductive Value where
  | null
  | bool (b : Bool)
  | int (n : Int)
  | float (x : Binary64)
  | text (s : String)
  | bytes (b : List UInt8)
  | moment (t : Timestamp)
  | list (items : List Value)
  | set (items : List Value)
  | map (entries : List (Value × Value))
deriving Inhabited

namespace Value

/-! ## Truth -/

/-- Whether a value counts as true: nothing, zero and the empty collections do not. -/
def truthy : Value → Bool
  | null => false
  | bool b => b
  | int n => n != 0
  | float x => !x.isZero
  | text s => !s.isEmpty
  | bytes b => !b.isEmpty
  | moment _ => true
  | list items => !items.isEmpty
  | set items => !items.isEmpty
  | map entries => !entries.isEmpty

/-- A value, or another in place of one that does not count as true. -/
def orElse (v other : Value) : Value := if v.truthy then v else other

/-! ## Keys -/

/-- The whole number a value equals, if it is a boolean or an integer. -/
def whole? : Value → Option Int
  | bool b => some (if b then 1 else 0)
  | int n => some n
  | _ => none

/-- Equality of two keys. Collections are no keys and equal nothing. -/
def sameKey (a b : Value) : Bool :=
  match a.whole?, b.whole? with
  | some m, some n => m == n
  | some m, none => match b with
    | float y => y.hasSize (m * Binary64.one)
    | _ => false
  | none, some n => match a with
    | float x => x.hasSize (n * Binary64.one)
    | _ => false
  | none, none => match a, b with
    | null, null => true
    | float x, float y => x.sameSize y
    | text s, text t => s == t
    | bytes s, bytes t => s == t
    | moment s, moment t => s.same t
    | _, _ => false

def lookup? {α : Type} (key : Value) : List (Value × α) → Option α
  | [] => none
  | (k, v) :: rest => if k.sameKey key then some v else lookup? key rest

/-- The entries with a value put under a key: in place if the key is there, else at the end. -/
def put {α : Type} (key : Value) (value : α) : List (Value × α) → List (Value × α)
  | [] => [(key, value)]
  | (k, v) :: rest => if k.sameKey key then (k, value) :: rest else (k, v) :: put key value rest

/-- The value under a text key of a map. -/
def get? (key : String) : Value → Option Value
  | map entries => lookup? (text key) entries
  | _ => none

/-- The levels of nesting that there is room for on the stack where nothing else is said. -/
def usualRoom : Nat := 900

/-! ## Texts -/

mutual

/-- The text of a value inside another: texts are quoted. -/
def shown : Value → List Char
  | null => "None".toList
  | bool b => (if b then "True" else "False").toList
  | int n => (toString n).toList
  | float x => x.shortText
  | text s => Text.quoted s.toList
  | bytes b => Text.quotedBytes b
  | moment t => t.text
  | list items => '[' :: Text.join ", ".toList (shownAll items) ++ [']']
  | set [] => "set()".toList
  | set items => '\x7b' :: Text.join ", ".toList (shownAll items) ++ ['\x7d']
  | map entries => '\x7b' :: Text.join ", ".toList (shownEntries entries) ++ ['\x7d']

/-- The texts of the items of a collection. -/
def shownAll : List Value → List (List Char)
  | [] => []
  | v :: rest => v.shown :: shownAll rest

/-- The texts of the entries of a map. -/
def shownEntries : List (Value × Value) → List (List Char)
  | [] => []
  | (k, v) :: rest => (k.shown ++ ':' :: ' ' :: v.shown) :: shownEntries rest

end

def quoted (v : Value) : String := String.ofList v.shown

/-- The text of a value standing alone: a text is itself. -/
def plain : Value → String
  | text s => s
  | v => v.quoted

end Value

end Translucency
