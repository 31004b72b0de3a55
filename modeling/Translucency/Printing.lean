import Translucency.Fault
import Translucency.Number.Numeral
import Translucency.Value

/-!
# Printing values

`Value.shown` says what the text of a value is. It takes digits and room on the stack to make it,
and there may be too many of the ones and too little of the other. An integer of too many digits is
not written at all. A collection is printed item by item, each item one level further down, and a
set by way of the list of its items, which takes one level more.

What may hold anything is printed by `Value.quote` and `Value.label`, which can fail. The values in
a message have been read from digits, and with room for all their levels, so their texts are taken
as they are.
-/

namespace Translucency.Value

/-- How the printer says that it ran out of room. -/
def tooDeepText : String := "maximum recursion depth exceeded while getting the repr of an object"

mutual

/-- What stops the printing of a value, with room for so many levels inside it. -/
def obstacle? (room : Nat) : Value → Option Fault
  | int n => if Numeral.isShort n then none else some (.mishap .badText)
  | list items => obstacleAmong? room items
  | set [] => none
  | set items =>
    match room with
    | 0 => some (.broken tooDeepText)
    | room + 1 => obstacleAmong? room items
  | map entries => obstacleIn? room entries
  | _ => none

/-- What stops the printing of items, one level down. -/
def obstacleAmong? (room : Nat) : List Value → Option Fault
  | [] => none
  | v :: rest =>
    match room with
    | 0 => some (.broken tooDeepText)
    | below + 1 => (v.obstacle? below).or (obstacleAmong? room rest)

/-- What stops the printing of entries, one level down. -/
def obstacleIn? (room : Nat) : List (Value × Value) → Option Fault
  | [] => none
  | (k, v) :: rest =>
    match room with
    | 0 => some (.broken tooDeepText)
    | below + 1 => ((k.obstacle? below).or (v.obstacle? below)).or (obstacleIn? room rest)

end

/-- The text of a value inside a message, or what stops the printing of it. -/
def quote (room : Nat) (v : Value) : Except Fault String :=
  match v.obstacle? room with
  | some fault => .error fault
  | none => .ok v.quoted

/-- The text of a key in a message. Keys are no collections, so they are not nested. -/
def label : Value → Except Fault String
  | int n => if Numeral.isShort n then .ok (int n).plain else .error (.mishap .badText)
  | key => .ok key.plain

end Translucency.Value
