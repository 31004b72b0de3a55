import Translucency.Printing
import Translucency.Proofs.Number.Magnitude

/-!
# What can be printed

A value is printed part by part, and printing stops at the first part for which there are too many
digits or too few levels. Where that is depends on the order of the parts; whether it comes to that
does not. A value can be printed exactly if it has no more levels than there is room for and no
integer in it has too many digits (`Value.obstacle?_eq_none_iff`).

Numbers that are finite as floating point numbers are far from having too many digits
(`Numeral.isShort_of_isFinite`), so of the values that stand for themselves none is in the way.
-/

namespace Translucency

/-- An integer within the floating point numbers has a few hundred digits at most. -/
theorem Numeral.isShort_of_lt {n : Int} (h : n.natAbs < Binary64.firstTooLarge) :
    Numeral.isShort n = true := by
  have hlimit : Binary64.firstTooLarge ≤ Nat.pow 10 digitLimit := by decide +kernel
  exact decide_eq_true (Nat.lt_of_lt_of_le h hlimit)

theorem Numeral.isShort_of_isFinite {n : Int} (h : (Binary64.ofInt n).isFinite = true) :
    Numeral.isShort n = true :=
  Numeral.isShort_of_lt ((Binary64.isFinite_ofInt_iff n).1 h)

namespace Value

/-! ## Levels and integers -/

mutual

/-- The levels that printing takes inside a value. -/
def depth : Value → Nat
  | list items => depthAmong items
  | set [] => 0
  | set items => depthAmong items + 1
  | map entries => depthIn entries
  | _ => 0

/-- The levels that items take. -/
def depthAmong : List Value → Nat
  | [] => 0
  | v :: rest => max (v.depth + 1) (depthAmong rest)

/-- The levels that entries take. -/
def depthIn : List (Value × Value) → Nat
  | [] => 0
  | (k, v) :: rest => max (max (k.depth + 1) (v.depth + 1)) (depthIn rest)

end

mutual

/-- The integers in a value. -/
def integers : Value → List Int
  | int n => [n]
  | list items => integersAmong items
  | set items => integersAmong items
  | map entries => integersIn entries
  | _ => []

/-- The integers in items. -/
def integersAmong : List Value → List Int
  | [] => []
  | v :: rest => v.integers ++ integersAmong rest

/-- The integers in entries. -/
def integersIn : List (Value × Value) → List Int
  | [] => []
  | (k, v) :: rest => k.integers ++ (v.integers ++ integersIn rest)

end

/-- Whether a value can be printed with room for so many levels inside it. -/
structure IsPrintable (room : Nat) (v : Value) : Prop where
  depth_le : v.depth ≤ room
  isShort : ∀ n ∈ v.integers, Numeral.isShort n = true

/-! ## What stops the printing -/

mutual

/-- **A value can be printed** exactly if there is room for its levels and its integers are short. -/
theorem obstacle?_eq_none_iff (room : Nat) (v : Value) :
    v.obstacle? room = none ↔ v.IsPrintable room := by
  have hparts : v.IsPrintable room ↔
      v.depth ≤ room ∧ ∀ n ∈ v.integers, Numeral.isShort n = true :=
    ⟨fun h => ⟨h.1, h.2⟩, fun h => ⟨h.1, h.2⟩⟩
  rw [hparts]
  match v with
  | int n => simp [obstacle?, depth, integers]
  | list items =>
    rw [obstacle?, depth, integers]
    exact obstacleAmong?_eq_none_iff room items
  | set [] => simp [obstacle?, depth, integers, integersAmong]
  | set (item :: items) =>
    cases room with
    | zero => simp [obstacle?, depth]
    | succ below =>
      simp only [obstacle?, depth, integers, Nat.succ_le_succ_iff]
      exact obstacleAmong?_eq_none_iff below (item :: items)
  | map entries =>
    rw [obstacle?, depth, integers]
    exact obstacleIn?_eq_none_iff room entries
  | null | bool _ | float _ | text _ | bytes _ | moment _ => simp [obstacle?, depth, integers]

theorem obstacleAmong?_eq_none_iff (room : Nat) (items : List Value) :
    obstacleAmong? room items = none ↔
      depthAmong items ≤ room ∧ ∀ n ∈ integersAmong items, Numeral.isShort n = true := by
  match items with
  | [] => simp [obstacleAmong?, depthAmong, integersAmong]
  | v :: rest =>
    cases room with
    | zero => simp [obstacleAmong?, depthAmong]
    | succ below =>
      have hv := obstacle?_eq_none_iff below v
      have hrest := obstacleAmong?_eq_none_iff (below + 1) rest
      rw [obstacleAmong?, Option.or_eq_none_iff, hv, hrest, depthAmong, integersAmong,
        List.forall_mem_append, Nat.max_le, Nat.succ_le_succ_iff]
      constructor
      · rintro ⟨⟨hdepth, hshort⟩, hdepths, hshorts⟩
        exact ⟨⟨hdepth, hdepths⟩, hshort, hshorts⟩
      · rintro ⟨⟨hdepth, hdepths⟩, hshort, hshorts⟩
        exact ⟨⟨hdepth, hshort⟩, hdepths, hshorts⟩

theorem obstacleIn?_eq_none_iff (room : Nat) (entries : List (Value × Value)) :
    obstacleIn? room entries = none ↔
      depthIn entries ≤ room ∧ ∀ n ∈ integersIn entries, Numeral.isShort n = true := by
  match entries with
  | [] => simp [obstacleIn?, depthIn, integersIn]
  | (k, v) :: rest =>
    cases room with
    | zero => simp [obstacleIn?, depthIn]
    | succ below =>
      have hk := obstacle?_eq_none_iff below k
      have hv := obstacle?_eq_none_iff below v
      have hrest := obstacleIn?_eq_none_iff (below + 1) rest
      rw [obstacleIn?, Option.or_eq_none_iff, Option.or_eq_none_iff, hk, hv, hrest, depthIn,
        integersIn, List.forall_mem_append, List.forall_mem_append, Nat.max_le, Nat.max_le,
        Nat.succ_le_succ_iff, Nat.succ_le_succ_iff]
      constructor
      · rintro ⟨⟨⟨hdepth, hshort⟩, hdepth', hshort'⟩, hdepths, hshorts⟩
        exact ⟨⟨⟨hdepth, hdepth'⟩, hdepths⟩, hshort, hshort', hshorts⟩
      · rintro ⟨⟨⟨hdepth, hdepth'⟩, hdepths⟩, hshort, hshort', hshorts⟩
        exact ⟨⟨⟨hdepth, hshort⟩, hdepth', hshort'⟩, hdepths, hshorts⟩

end

/-- A value that can be printed is printed as it is shown. -/
theorem quote_of_isPrintable {room : Nat} {v : Value} (h : v.IsPrintable room) :
    v.quote room = .ok v.quoted := by
  rw [quote, (obstacle?_eq_none_iff room v).2 h]

theorem quote_of_obstacle {room : Nat} {v : Value} {fault : Fault}
    (h : v.obstacle? room = some fault) : v.quote room = .error fault := by
  rw [quote, h]

/-- Whether a value is an integer of too many digits. That is all that can be wrong with a key. -/
def isLong : Value → Bool
  | int n => !Numeral.isShort n
  | _ => false

theorem label_of_not_isLong {key : Value} (h : key.isLong = false) : key.label = .ok key.plain := by
  cases key with
  | int n =>
    have hshort : Numeral.isShort n = true := by simpa [isLong] using h
    rw [label, if_pos hshort]
  | _ => rfl

theorem label_of_isLong {key : Value} (h : key.isLong = true) :
    key.label = .error (.mishap .badText) := by
  cases key with
  | int n =>
    have hlong : Numeral.isShort n = false := by simpa [isLong] using h
    simp [label, hlong]
  | _ => cases h

end Value

end Translucency
