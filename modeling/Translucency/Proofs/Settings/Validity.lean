import Translucency.Proofs.Settings.Finite

/-!
# What accepted settings are

Settings that were accepted are valid (`Settings.isValid_of_ofEntries`): the opacity is a finite
number and the poll interval lies between its bounds, whatever the entries were. The types of the
other three leave no room for anything else. Written back under their keys, valid settings are all
five of them, each once and of its kind (`Settings.isWhole_entries`), and they pass the checks again
and amount to themselves (`Settings.ofEntries_entries`), even without those that are at their
defaults (`Settings.ofEntries_of_subset`).
-/

namespace Translucency

/-- Whether a number may be a poll interval. -/
def Binary64.IsInterval (x : Binary64) : Prop :=
  x.isFinite = true ∧ x.below Settings.shortestInterval = false ∧
    x.above Settings.longestInterval = false

instance : DecidablePred Binary64.IsInterval :=
  fun _ => inferInstanceAs (Decidable (_ ∧ _ ∧ _))

/-- Whether a value is of the kind that a setting has. -/
def Setting.Admits : Setting → Value → Prop
  | .opacity, v => ∃ n : Number, n.IsFinite ∧ v = n.value
  | .exclusions, v => ∃ s, v = .text s
  | .showNames, v | .showDebug, v => ∃ b, v = .bool b
  | .interval, v => ∃ x : Binary64, x.IsInterval ∧ v = .float x

namespace Settings

/-- Whether settings may be in force. -/
structure IsValid (s : Settings) : Prop where
  opacity : s.opacity.IsFinite
  interval : s.interval.IsInterval

/-- Whether entries are all settings: each under its key, once and in order, with a value of its
kind. -/
def IsWhole (entries : List (Value × Value)) : Prop :=
  entries.map (·.1) = Setting.all.map (fun setting => .text setting.key) ∧
    ∀ setting : Setting, ∃ v, Value.lookup? (.text setting.key) entries = some v ∧ setting.Admits v

/-! ## Poll intervals -/

theorem below_whole_eq_false_iff {n bound : Int} :
    (Number.whole n).below bound = false ↔ bound ≤ n * Binary64.one :=
  decide_eq_false_iff_not.trans Int.not_lt

theorem above_whole_eq_false_iff {n bound : Int} :
    (Number.whole n).above bound = false ↔ n * Binary64.one ≤ bound :=
  decide_eq_false_iff_not.trans Int.not_lt

/-- The whole numbers of seconds that may be set are poll intervals after their conversion too. -/
theorem isInterval_ofInt_succ : ∀ n < 30, (Binary64.ofInt ((n : Nat) + 1)).IsInterval := by
  decide +kernel

theorem isInterval_default : (Binary64.ofInt 2).IsInterval := isInterval_ofInt_succ 1 (by decide)

/-- A number that lies between the bounds before its conversion does so after it. -/
theorem isInterval_toBinary64 {n : Number} (hfinite : n.IsFinite)
    (hbelow : n.below shortestInterval = false) (habove : n.above longestInterval = false) :
    n.toBinary64.IsInterval := by
  cases n with
  | real x => exact ⟨hfinite, hbelow, habove⟩
  | whole n =>
    have hone : (0 : Int) < (Binary64.one : Int) := by decide +kernel
    have hshortest : 0 < shortestInterval := by decide +kernel
    have hlow : shortestInterval ≤ n * Binary64.one := below_whole_eq_false_iff.1 hbelow
    have hhigh : n * Binary64.one ≤ 30 * Binary64.one := above_whole_eq_false_iff.1 habove
    have hpos : 0 < n := Int.pos_of_mul_pos_left (Int.lt_of_lt_of_le hshortest hlow) hone
    have hle : n ≤ 30 := Int.le_of_mul_le_mul_right hhigh hone
    obtain ⟨k, rfl⟩ : ∃ k : Nat, n = k + 1 := ⟨(n - 1).toNat, by omega⟩
    exact isInterval_ofInt_succ k (by omega)

theorem isInterval_of_readInterval {v : Value} {x : Binary64} (h : readInterval v = .ok x) :
    x.IsInterval := by
  obtain ⟨n?, hnumber, h⟩ := bind_eq_ok_iff.1 h
  cases n? with
  | none => cases h
  | some n =>
    dsimp only at h
    split at h
    · cases h
    · next hbounds =>
      cases h
      simp only [Bool.or_eq_true, not_or, Bool.not_eq_true] at hbounds
      exact isInterval_toBinary64 (isFinite_of_finiteNumber? hnumber) hbounds.1 hbounds.2

/-- The bounds are themselves poll intervals, and the nearest numbers beyond them are none. -/
example :
    (Binary64.ofBits 0x3fb999999999999a).IsInterval ∧ (Binary64.ofInt 30).IsInterval ∧
      ¬ (Binary64.ofBits 0x3fb9999999999999).IsInterval ∧
        ¬ (Binary64.ofBits 0x403e000000000001).IsInterval := by decide +kernel

/-- What holds of the default and of whatever a reader accepts holds of a setting that was read. -/
theorem of_readOr {α : Type} {P : α → Prop} {entries : List (Value × Value)} {setting : Setting}
    {default a : α} {reader : Value → Except Fault α} (hdefault : P default)
    (hreader : ∀ v, reader v = .ok a → P a) (h : readOr entries setting default reader = .ok a) :
    P a := by
  unfold readOr at h
  split at h
  · next v _ => exact hreader v h
  · cases h
    exact hdefault

/-! ## Validity -/

/-- **Accepted settings are valid**, whatever the entries. -/
theorem isValid_of_ofEntries {entries : List (Value × Value)} {s : Settings}
    (h : ofEntries entries = .ok s) : s.IsValid := by
  refine ⟨isFinite_of_ofEntries h, ?_⟩
  dsimp only [ofEntries] at h
  obtain ⟨_, _, h⟩ := bind_eq_ok_iff.1 h
  obtain ⟨_, _, h⟩ := bind_eq_ok_iff.1 h
  obtain ⟨_, _, h⟩ := bind_eq_ok_iff.1 h
  obtain ⟨_, _, h⟩ := bind_eq_ok_iff.1 h
  obtain ⟨interval, hinterval, h⟩ := bind_eq_ok_iff.1 h
  cases h
  exact of_readOr isInterval_default (fun v => isInterval_of_readInterval) hinterval

theorem isValid_default : ({} : Settings).IsValid := by
  have hopacity : (Number.whole 70).IsFinite :=
    Binary64.isFinite_ofInt (show 70 < 2 ^ 7 by decide) (by decide)
  refine ⟨hopacity, ?_⟩
  -- The field is projected first, or the number is computed to compare it.
  dsimp only
  exact isInterval_default

variable {s : Settings}

/-- Each setting is found in the entries. -/
theorem lookup?_entries (s : Settings) (setting : Setting) :
    Value.lookup? (.text setting.key) s.entries = some (s.get setting) := by
  cases setting <;> rfl

theorem IsValid.admits (h : s.IsValid) (setting : Setting) : setting.Admits (s.get setting) := by
  cases setting with
  | opacity => exact ⟨s.opacity, h.opacity, rfl⟩
  | exclusions => exact ⟨s.exclusions, rfl⟩
  | showNames => exact ⟨s.showNames, rfl⟩
  | showDebug => exact ⟨s.showDebug, rfl⟩
  | interval => exact ⟨s.interval, h.interval, rfl⟩

theorem IsValid.isWhole_entries (h : s.IsValid) : IsWhole s.entries :=
  ⟨rfl, fun setting => ⟨_, lookup?_entries s setting, h.admits setting⟩⟩

/-- A finite number is read as itself. -/
theorem finiteNumber?_value {n : Number} (h : n.IsFinite) : finiteNumber? n.value = .ok (some n) := by
  unfold Number.IsFinite at h
  cases n with
  | whole n => exact if_pos h
  | real x => exact congrArg Except.ok (if_pos h)

theorem readInterval_float {x : Binary64} (h : x.IsInterval) : readInterval (.float x) = .ok x := by
  obtain ⟨hfinite, hbelow, habove⟩ := h
  have hnumber : (Number.real x).IsFinite := hfinite
  have hread : finiteNumber? (.float x) = .ok (some (.real x)) := finiteNumber?_value hnumber
  have hbounds : ((Number.real x).below shortestInterval ||
      (Number.real x).above longestInterval) = false := by
    simp only [Number.below, Number.above, hbelow, habove, Bool.or_self]
  rw [readInterval, hread, ok_bind]
  exact if_neg (Bool.not_eq_true _ ▸ hbounds)

theorem number_value_inj {m n : Number} (h : m.value = n.value) : m = n := by
  cases m <;> cases n <;> cases h <;> rfl

theorem ofKey?_key (setting : Setting) : Setting.ofKey? setting.key = some setting := by
  cases setting <;> decide

/-- In some of the entries of settings a setting is found as it is set, unless it is missing. -/
theorem lookup?_of_subset {entries : List (Value × Value)} (hsub : entries ⊆ s.entries)
    (setting : Setting) :
    Value.lookup? (.text setting.key) entries = some (s.get setting) ∨
      Value.lookup? (.text setting.key) entries = none ∧
        .text setting.key ∉ entries.map (·.1) := by
  induction entries with
  | nil => exact .inr ⟨rfl, List.not_mem_nil⟩
  | cons e entries ih =>
    obtain ⟨hmem, hrest⟩ := List.cons_subset.1 hsub
    obtain ⟨other, -, rfl⟩ := List.mem_map.1 hmem
    by_cases heq : other = setting
    · subst heq
      exact .inl (if_pos (beq_self_eq_true other.key))
    · have hkey : other.key ≠ setting.key := by
        intro h
        have := ofKey?_key other
        rw [h, ofKey?_key] at this
        exact heq (Option.some.inj this).symm
      have hskip : Value.lookup? (.text setting.key) ((.text other.key, s.get other) :: entries) =
          Value.lookup? (.text setting.key) entries :=
        if_neg fun h => hkey (beq_iff_eq.1 h)
      rw [hskip]
      refine (ih hrest).imp_right fun ⟨hnone, hmissing⟩ => ⟨hnone, ?_⟩
      rw [List.map_cons, List.mem_cons, not_or]
      exact ⟨fun h => hkey (Value.text.inj h).symm, hmissing⟩

/-- **Valid settings are accepted as they are.** Some of their entries amount to them, as long as
only defaults are missing. -/
theorem ofEntries_of_subset (h : s.IsValid) {entries : List (Value × Value)}
    (hsub : entries ⊆ s.entries)
    (hmissing : ∀ setting : Setting, .text setting.key ∉ entries.map (·.1) →
      s.get setting = ({} : Settings).get setting) :
    ofEntries entries = .ok s := by
  have hread {α : Type} (setting : Setting) {a d : α} {reader : Value → Except Fault α}
      (hreader : reader (s.get setting) = .ok a)
      (hdefault : s.get setting = ({} : Settings).get setting → a = d) :
      readOr entries setting d reader = .ok a := by
    obtain hlookup | ⟨hlookup, hkey⟩ := lookup?_of_subset hsub setting
    · rw [readOr, hlookup]
      exact hreader
    · rw [readOr, hlookup, hdefault (hmissing setting hkey)]
  have hopacity : readOpacity s.opacity.value = .ok s.opacity := by
    rw [readOpacity, finiteNumber?_value h.opacity]
    rfl
  have hinterval : readInterval (.float s.interval) = .ok s.interval :=
    readInterval_float h.interval
  dsimp only [ofEntries]
  rw [hread .opacity hopacity (number_value_inj (n := .whole 70)), ok_bind,
    hread .exclusions (a := s.exclusions) rfl Value.text.inj, ok_bind,
    hread .showNames (a := s.showNames) rfl Value.bool.inj, ok_bind,
    hread .showDebug (a := s.showDebug) rfl Value.bool.inj, ok_bind,
    hread .interval hinterval Value.float.inj, ok_bind]
  rfl

/-- Written back under their keys, valid settings amount to themselves. -/
theorem ofEntries_entries (h : s.IsValid) : ofEntries s.entries = .ok s := by
  refine ofEntries_of_subset h (List.Subset.refl _) fun setting hmissing => absurd ?_ hmissing
  exact List.mem_map_of_mem (List.mem_map_of_mem (by cases setting <;> decide))

end Settings

end Translucency
