import Mathlib.Data.List.TakeWhile
import Translucency.Json.Reader
import Translucency.Proofs.Act
import Translucency.Proofs.Number.Numerals
import Translucency.Proofs.Printing

/-!
# What was read can be printed

The texts of what a message holds are taken as they are, with no look at the digits and the levels
that it takes to print them. None is needed: an integer that was read has few enough digits to be
written, and a value that was read with room for its levels is printed with that room
(`isPrintable_of_read`).
-/

namespace Translucency

/-- An integer is written with as many digits as it was read from, or fewer. -/
theorem Numeral.isShort_signed_value {ds : List Char} (h : ∀ c ∈ ds, c.isDigit = true)
    (hlength : ds.length ≤ digitLimit) (negative : Bool) :
    isShort (signed negative (value ds)) = true := by
  have habs : (signed negative (value ds)).natAbs = value ds := by
    cases negative <;> simp [signed]
  have hpow : ∀ {m n : Nat}, m ≤ n → Nat.pow 10 m ≤ Nat.pow 10 n :=
    fun h => Nat.pow_le_pow_right (by decide) h
  rw [isShort, habs]
  exact decide_eq_true (Nat.lt_of_lt_of_le (value_lt h) (hpow hlength))

/-! ## Collections -/

namespace Value

variable {room : Nat}

theorem isPrintable_list_nil (room : Nat) : (list []).IsPrintable room :=
  (obstacle?_eq_none_iff ..).1 rfl

theorem isPrintable_map_nil (room : Nat) : (map []).IsPrintable room :=
  (obstacle?_eq_none_iff ..).1 rfl

theorem isPrintable_text (s : String) (room : Nat) : (text s).IsPrintable room :=
  (obstacle?_eq_none_iff ..).1 rfl

/-- The items of a list are one level down. -/
theorem isPrintable_list_cons_iff {v : Value} {items : List Value} :
    (list (v :: items)).IsPrintable (room + 1) ↔
      v.IsPrintable room ∧ (list items).IsPrintable (room + 1) := by
  simp only [← obstacle?_eq_none_iff, obstacle?, obstacleAmong?, Option.or_eq_none_iff]

theorem isPrintable_map_cons_iff {k v : Value} {entries : List (Value × Value)} :
    (map ((k, v) :: entries)).IsPrintable (room + 1) ↔
      (k.IsPrintable room ∧ v.IsPrintable room) ∧ (map entries).IsPrintable (room + 1) := by
  simp only [← obstacle?_eq_none_iff, obstacle?, obstacleIn?, Option.or_eq_none_iff]

/-- A value that is put into a map takes the place of one that goes, or stands at the end. -/
theorem IsPrintable.put {v : Value} (hv : v.IsPrintable room) (name : String)
    {entries : List (Value × Value)} (h : (map entries).IsPrintable (room + 1)) :
    (map (Value.put (text name) v entries)).IsPrintable (room + 1) := by
  induction entries with
  | nil => exact isPrintable_map_cons_iff.2 ⟨⟨isPrintable_text name room, hv⟩, h⟩
  | cons e entries ih =>
    obtain ⟨k, w⟩ := e
    obtain ⟨⟨hk, hw⟩, hrest⟩ := isPrintable_map_cons_iff.1 h
    rw [Value.put]
    split
    · exact isPrintable_map_cons_iff.2 ⟨⟨hk, hv⟩, hrest⟩
    · exact isPrintable_map_cons_iff.2 ⟨⟨hk, hw⟩, ih hrest⟩

/-- What stands in a map is one level down. -/
theorem IsPrintable.of_lookup? {key v : Value} {entries : List (Value × Value)}
    (h : (map entries).IsPrintable (room + 1)) (hv : lookup? key entries = some v) :
    v.IsPrintable room := by
  induction entries with
  | nil => cases hv
  | cons e entries ih =>
    obtain ⟨k, w⟩ := e
    obtain ⟨⟨-, hw⟩, hrest⟩ := isPrintable_map_cons_iff.1 h
    rw [lookup?] at hv
    split at hv
    · cases hv
      exact hw
    · exact ih hrest hv

end Value

namespace Json

/-! ## Scalars -/

theorem isDigit_of_whole? {s whole rest : List Char} (h : whole? s = some (whole, rest)) :
    ∀ c ∈ whole, c.isDigit = true := by
  unfold whole? at h
  split at h
  · cases h
  · cases h
    intro c hc
    rw [List.mem_singleton.1 hc]
    rfl
  · split at h
    · next hfirst =>
      cases h
      intro c hc
      rcases List.mem_cons.1 hc with rfl | hrest
      · exact hfirst
      · exact List.mem_takeWhile_imp hrest
    · cases h

/-- A number that is no integer takes no digits to speak of, and an integer was read from digits that
are few enough. -/
theorem isPrintable_of_number? {negative : Bool} {s rest : List Char} {v : Value}
    (h : number? negative s = some (v, rest)) (room : Nat) : v.IsPrintable room := by
  unfold number? at h
  obtain ⟨⟨whole, afterWhole⟩, hwhole, h⟩ := Option.bind_eq_some_iff.1 h
  obtain ⟨fraction?, afterFraction⟩ := fraction afterWhole
  obtain ⟨exponent?, afterExponent⟩ := exponent afterFraction
  rw [← Value.obstacle?_eq_none_iff]
  simp only at h
  split at h
  · split at h
    · cases h
    · next hlength =>
      cases h
      have hshort := Numeral.isShort_signed_value (isDigit_of_whole? hwhole)
        (Nat.le_of_not_lt hlength) negative
      rw [Value.obstacle?, if_pos hshort]
  · cases h
    rfl

theorem isPrintable_of_scalar? {s rest : List Char} {v : Value}
    (h : scalar? s = some (v, rest)) (room : Nat) : v.IsPrintable room := by
  have hmap : ∀ {α : Type} {o : Option α} {f : α → Value × List Char},
      (∀ a, (f a).1.IsPrintable room) → o.map f = some (v, rest) → v.IsPrintable room := by
    intro α o f hf ho
    obtain ⟨a, -, ha⟩ := Option.map_eq_some_iff.1 ho
    have hprint := hf a
    rwa [ha] at hprint
  unfold scalar? at h
  split at h
  all_goals first
    | exact isPrintable_of_number? h room
    | exact hmap (fun _ => (Value.obstacle?_eq_none_iff ..).1 rfl) h

/-! ## Values -/

/-- What is read with some fuel can be printed with the room that it was read with. -/
structure ReadsPrintable (fuel : Nat) : Prop where
  value : ∀ {room : Nat} {s rest : List Char} {v : Value},
    readValue room fuel s = .ok (v, rest) → v.IsPrintable room
  items : ∀ {room : Nat} {s rest : List Char} {items : List Value},
    readItems room fuel s = .ok (items, rest) → (Value.list items).IsPrintable (room + 1)
  members : ∀ {room : Nat} {s rest : List Char} {before members : List (Value × Value)},
    readMembers room fuel before s = .ok (members, rest) →
    (Value.map before).IsPrintable (room + 1) → (Value.map members).IsPrintable (room + 1)

namespace ReadsPrintable

variable {fuel room : Nat} {s rest : List Char}

theorem value_succ (h : ReadsPrintable fuel) {v : Value}
    (hread : readValue room (fuel + 1) s = .ok (v, rest)) : v.IsPrintable room := by
  unfold readValue at hread
  split at hread
  · -- A list takes a level, and with none there is no list.
    cases room with
    | zero => cases hread
    | succ room =>
      simp only at hread
      split at hread
      · cases hread
        exact Value.isPrintable_list_nil _
      · obtain ⟨⟨items, s'⟩, hitems, hread⟩ := bind_eq_ok_iff.1 hread
        cases hread
        exact h.items hitems
  · cases room with
    | zero => cases hread
    | succ room =>
      simp only at hread
      split at hread
      · cases hread
        exact Value.isPrintable_map_nil _
      · obtain ⟨⟨members, s'⟩, hmembers, hread⟩ := bind_eq_ok_iff.1 hread
        cases hread
        exact h.members hmembers (Value.isPrintable_map_nil _)
  · cases hscalar : scalar? s with
    | none =>
      rw [hscalar] at hread
      cases hread
    | some r =>
      rw [hscalar] at hread
      cases hread
      exact isPrintable_of_scalar? hscalar room

theorem items_succ (h : ReadsPrintable fuel) {items : List Value}
    (hread : readItems room (fuel + 1) s = .ok (items, rest)) :
    (Value.list items).IsPrintable (room + 1) := by
  unfold readItems at hread
  obtain ⟨⟨v, s'⟩, hvalue, hread⟩ := bind_eq_ok_iff.1 hread
  have hv := h.value hvalue
  simp only at hread
  split at hread
  · obtain ⟨⟨more, s''⟩, hmore, hread⟩ := bind_eq_ok_iff.1 hread
    cases hread
    exact Value.isPrintable_list_cons_iff.2 ⟨hv, h.items hmore⟩
  · cases hread
    exact Value.isPrintable_list_cons_iff.2 ⟨hv, Value.isPrintable_list_nil _⟩
  · cases hread

theorem members_succ (h : ReadsPrintable fuel) {before members : List (Value × Value)}
    (hread : readMembers room (fuel + 1) before s = .ok (members, rest))
    (hbefore : (Value.map before).IsPrintable (room + 1)) :
    (Value.map members).IsPrintable (room + 1) := by
  unfold readMembers at hread
  split at hread
  · obtain ⟨⟨name, s'⟩, -, hread⟩ := bind_eq_ok_iff.1 hread
    obtain ⟨s'', -, hread⟩ := bind_eq_ok_iff.1 hread
    obtain ⟨⟨v, s'''⟩, hvalue, hread⟩ := bind_eq_ok_iff.1 hread
    have hput := (h.value hvalue).put (String.ofList name) hbefore
    simp only at hread
    split at hread
    · exact h.members hread hput
    · cases hread
      exact hput
    · cases hread
  · cases hread

end ReadsPrintable

/-- The three readings call one another, each with less fuel. -/
theorem readsPrintable (fuel : Nat) : ReadsPrintable fuel := by
  induction fuel with
  | zero =>
    refine ⟨fun h => ?_, fun h => ?_, fun h _ => ?_⟩
    · cases h
    · cases h
    · cases h
  | succ fuel ih => exact ⟨ih.value_succ, ih.items_succ, ih.members_succ⟩

/-- **What was read can be printed**, with room for as many levels as there were to read it. -/
theorem isPrintable_of_read {room : Nat} {s : List Char} {v : Value} (h : read room s = .ok v) :
    v.IsPrintable (room + 1) := by
  obtain ⟨⟨w, rest⟩, hread, h⟩ := bind_eq_ok_iff.1 h
  simp only at h
  split at h
  · cases h
    exact (readsPrintable _).value hread
  · cases h

end Json

end Translucency
