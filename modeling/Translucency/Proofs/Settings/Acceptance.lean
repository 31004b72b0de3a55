import Translucency.Proofs.Settings.Mishaps
import Translucency.Proofs.Settings.Validity

/-!
# Which settings are accepted

A settings file may hold anything under a key. `Setting.Accepts` says which values a setting takes,
and `Setting.given` what it makes of them: no exclusion list is the empty one, and the interval is a
floating point number from then on. Entries are accepted if every setting that is in them is, and
otherwise they are refused for the first one that is not, in the order of the settings and not of
the entries (`FirstRejected`).

The five checks have different shapes, and each is said to be right in the same words
(`Setting.Checks`), so that the order of the checks is all that is left
(`Settings.isVerdict_ofEntries`).

A refusal has a wording for its setting (`Setting.refusal`). There are two exceptions, and they are
not meant to be. Where a number is looked for, an integer that no floating point number can hold is
not refused but goes through as a mishap (`Setting.complaint`), even an interval, where every integer
beyond thirty ought to be refused alike. And an unknown key that is an integer of too many digits
cannot be printed into its warning, which ends the validation before anything is checked.
-/

namespace Translucency

/-! ## What a setting takes -/

namespace Setting

/-- Whether a setting takes a value. -/
def Accepts : Setting → Value → Prop
  | .opacity, v => ∃ n : Number, v = n.value ∧ n.IsFinite
  | .exclusions, v => v = .null ∨ ∃ s, v = .text s
  | .showNames, v | .showDebug, v => ∃ b, v = .bool b
  | .interval, v => ∃ n : Number, v = n.value ∧ n.IsFinite ∧
      n.below Settings.shortestInterval = false ∧ n.above Settings.longestInterval = false

/-- The value that is in force where a setting takes one. -/
def given : Setting → Value → Value
  | .exclusions, .null => .text ""
  | .interval, .int n => .float (.ofInt n)
  | _, v => v

/-- Why a value is refused. -/
def refusal : Setting → SettingsFault
  | .opacity => .badOpacity
  | .exclusions => .badExclusions
  | .showNames => .badFlag showNames.key
  | .showDebug => .badFlag showDebug.key
  | .interval => .badInterval

/-- Whether a setting is a number. -/
def isNumber : Setting → Bool
  | .opacity | .interval => true
  | _ => false

end Setting

/-- Whether a value is an integer that no floating point number can hold. -/
def Value.isHuge : Value → Bool
  | .int n => !(Binary64.ofInt n).isFinite
  | _ => false

/-- What becomes of a value that a setting does not take. -/
def Setting.complaint (setting : Setting) (v : Value) : Fault :=
  if setting.isNumber && v.isHuge then .mishap .tooLarge else .settings setting.refusal

/-- Whether a reader takes what a setting takes, and complains about the rest. -/
def Setting.Checks {α : Type} (setting : Setting) (reader : Value → Except Fault α)
    (value : α → Value) : Prop :=
  ∀ v, (setting.Accepts v ∧ ∃ a, reader v = .ok a ∧ value a = setting.given v) ∨
    (¬ setting.Accepts v ∧ reader v = .error (setting.complaint v))

namespace Settings

/-! ## Numbers -/

/-- A value is a finite number, or it is huge, or it is neither. -/
theorem finiteNumber?_cases (v : Value) :
    (∃ n : Number, v = n.value ∧ n.IsFinite ∧ finiteNumber? v = .ok (some n)) ∨
      ((¬ ∃ n : Number, v = n.value ∧ n.IsFinite) ∧
        finiteNumber? v = if v.isHuge then .error (.mishap .tooLarge) else .ok none) := by
  by_cases hfinite : ∃ n : Number, v = n.value ∧ n.IsFinite
  · obtain ⟨n, rfl, hn⟩ := hfinite
    exact .inl ⟨n, rfl, hn, finiteNumber?_value hn⟩
  · refine .inr ⟨hfinite, ?_⟩
    cases v with
    | int n =>
      have hhuge : (Binary64.ofInt n).isFinite = false := by
        by_contra hn
        exact hfinite ⟨.whole n, rfl, eq_true_of_ne_false hn⟩
      simp [finiteNumber?, Value.isHuge, hhuge]
    | float x =>
      have hnone : x.isFinite = false := by
        by_contra hx
        exact hfinite ⟨.real x, rfl, eq_true_of_ne_false hx⟩
      simp [finiteNumber?, Value.isHuge, hnone]
    | _ => rfl

/-- A finite number is not huge. -/
theorem isHuge_of_isFinite {n : Number} (h : n.IsFinite) : n.value.isHuge = false := by
  cases n with
  | whole n =>
    have hfinite : (Binary64.ofInt n).isFinite = true := h
    simp [Number.value, Value.isHuge, hfinite]
  | real x => rfl

theorem checks_readOpacity : Setting.opacity.Checks readOpacity Number.value := by
  intro v
  obtain ⟨n, rfl, hn, hread⟩ | ⟨hnone, hread⟩ := finiteNumber?_cases v
  · refine .inl ⟨⟨n, rfl, hn⟩, n, ?_, rfl⟩
    rw [readOpacity, hread]
    rfl
  · refine .inr ⟨hnone, ?_⟩
    rw [readOpacity, hread]
    cases hhuge : v.isHuge with
    | true => simp [Setting.complaint, Setting.isNumber, hhuge]
    | false => simp [Setting.complaint, Setting.isNumber, hhuge, Setting.refusal]; rfl

theorem checks_readInterval : Setting.interval.Checks readInterval .float := by
  intro v
  obtain ⟨n, rfl, hn, hread⟩ | ⟨hnone, hread⟩ := finiteNumber?_cases v
  · by_cases hbounds : n.below shortestInterval = false ∧ n.above longestInterval = false
    · refine .inl ⟨⟨n, rfl, hn, hbounds⟩, n.toBinary64, ?_, ?_⟩
      · rw [readInterval, hread, ok_bind]
        simp [hbounds]
        rfl
      · cases n <;> rfl
    · refine .inr ⟨?_, ?_⟩
      · rintro ⟨m, hm, -, hbetween⟩
        rw [← number_value_inj hm] at hbetween
        exact hbounds hbetween
      · have hbeyond : (n.below shortestInterval || n.above longestInterval) = true := by
          rw [Bool.or_eq_true]
          by_contra hnot
          rw [not_or, Bool.not_eq_true, Bool.not_eq_true] at hnot
          exact hbounds hnot
        rw [readInterval, hread, ok_bind]
        simp only [hbeyond, if_true, Setting.complaint, isHuge_of_isFinite hn, Bool.and_false,
          Bool.false_eq_true, if_false, Setting.refusal]
        rfl
  · refine .inr ⟨?_, ?_⟩
    · rintro ⟨n, hv, hn, -⟩
      exact hnone ⟨n, hv, hn⟩
    · rw [readInterval, hread]
      cases hhuge : v.isHuge with
      | true => simp [Setting.complaint, Setting.isNumber, hhuge]
      | false => simp [Setting.complaint, Setting.isNumber, hhuge, Setting.refusal]; rfl

/-! ## Texts and flags -/

theorem checks_readExclusions : Setting.exclusions.Checks readExclusions .text := by
  intro v
  cases v with
  | null => exact .inl ⟨.inl rfl, "", rfl, rfl⟩
  | text s => exact .inl ⟨.inr ⟨s, rfl⟩, s, rfl, rfl⟩
  | _ => exact .inr ⟨by simp [Setting.Accepts], rfl⟩

theorem checks_readFlag {setting : Setting} (h : setting = .showNames ∨ setting = .showDebug) :
    setting.Checks (readFlag setting) .bool := by
  intro v
  obtain rfl | rfl := h
  all_goals cases v with
  | bool b => exact .inl ⟨⟨b, rfl⟩, b, rfl, rfl⟩
  | _ => exact .inr ⟨by simp [Setting.Accepts], rfl⟩

/-! ## All settings -/

variable {entries : List (Value × Value)}

/-- Whether a setting takes what is in the entries for it, if anything is. -/
def Passes (entries : List (Value × Value)) (setting : Setting) : Prop :=
  ∀ v, Value.lookup? (.text setting.key) entries = some v → setting.Accepts v

/-- What a setting is set to by entries that are accepted: what they give, or the default. -/
def outcome (entries : List (Value × Value)) (setting : Setting) : Value :=
  match Value.lookup? (.text setting.key) entries with
  | some v => setting.given v
  | none => ({} : Settings).get setting

/-- Whether a setting is the first one that does not take its value. -/
structure FirstRejected (entries : List (Value × Value)) (setting : Setting) (v : Value) : Prop where
  found : Value.lookup? (.text setting.key) entries = some v
  rejected : ¬ setting.Accepts v
  before : ∀ other ∈ Setting.all.takeWhile (· ≠ setting), Passes entries other

/-- Whether a reading is refused for the first setting that does not take its value, or gives what
the entries say. -/
def IsVerdict (entries : List (Value × Value)) (r : Except Fault Settings) : Prop :=
  (∃ setting v, FirstRejected entries setting v ∧ r = .error (setting.complaint v)) ∨
    ((∀ setting, Passes entries setting) ∧
      ∃ s, r = .ok s ∧ ∀ setting, s.get setting = outcome entries setting)

/-- A setting is checked when those before it have passed: either it is the first one to be rejected,
or what follows may count on it. -/
theorem isVerdict_readOr_bind {α : Type} {setting : Setting} {reader : Value → Except Fault α}
    {value : α → Value} {default : α} {next : α → Except Fault Settings}
    (hchecks : setting.Checks reader value)
    (hdefault : value default = ({} : Settings).get setting)
    (hbefore : ∀ other ∈ Setting.all.takeWhile (· ≠ setting), Passes entries other)
    (hnext : Passes entries setting → ∀ a, value a = outcome entries setting →
      IsVerdict entries (next a)) :
    IsVerdict entries (readOr entries setting default reader >>= next) := by
  unfold readOr
  cases hlookup : Value.lookup? (.text setting.key) entries with
  | none =>
    have hpasses : Passes entries setting := by
      intro v hv
      rw [hlookup] at hv
      cases hv
    have houtcome : outcome entries setting = ({} : Settings).get setting := by
      rw [outcome, hlookup]
    exact hnext hpasses default (hdefault.trans houtcome.symm)
  | some v =>
    obtain ⟨haccepts, a, hread, hvalue⟩ | ⟨hrejected, hread⟩ := hchecks v
    · have hpasses : Passes entries setting := by
        intro v' hv'
        rw [hlookup] at hv'
        cases hv'
        exact haccepts
      have houtcome : outcome entries setting = setting.given v := by
        rw [outcome, hlookup]
      simp only [hread, ok_bind]
      exact hnext hpasses a (hvalue.trans houtcome.symm)
    · simp only [hread, error_bind]
      exact .inl ⟨setting, v, ⟨hlookup, hrejected, hbefore⟩, rfl⟩

/-- The settings are read one after the other, up to the first that is rejected. -/
theorem isVerdict_ofEntries (entries : List (Value × Value)) :
    IsVerdict entries (ofEntries entries) := by
  dsimp only [ofEntries]
  refine isVerdict_readOr_bind checks_readOpacity rfl (by simp [Setting.all])
    fun hopacity opacity ho => ?_
  refine isVerdict_readOr_bind checks_readExclusions rfl (by simp [Setting.all, hopacity])
    fun hexclusions exclusions he => ?_
  refine isVerdict_readOr_bind (checks_readFlag (.inl rfl)) rfl
    (by simp [Setting.all, hopacity, hexclusions]) fun hnames names hn => ?_
  refine isVerdict_readOr_bind (checks_readFlag (.inr rfl)) rfl
    (by simp [Setting.all, hopacity, hexclusions, hnames]) fun hdebug debug hd => ?_
  refine isVerdict_readOr_bind checks_readInterval (by simp only [Settings.get])
    (by simp [Setting.all, hopacity, hexclusions, hnames, hdebug]) fun hinterval interval hi => ?_
  refine .inr ⟨fun setting => ?_, _, rfl, fun setting => ?_⟩
  · cases setting with
    | opacity => exact hopacity
    | exclusions => exact hexclusions
    | showNames => exact hnames
    | showDebug => exact hdebug
    | interval => exact hinterval
  · cases setting with
    | opacity => exact ho
    | exclusions => exact he
    | showNames => exact hn
    | showDebug => exact hd
    | interval => exact hi

/-- Only one setting can be the first that is rejected, and then not all of them pass. -/
theorem FirstRejected.not_passes {setting : Setting} {v : Value}
    (h : FirstRejected entries setting v) : ¬ Passes entries setting :=
  fun hpasses => h.rejected (hpasses v h.found)

theorem FirstRejected.unique {setting setting' : Setting} {v v' : Value}
    (h : FirstRejected entries setting v) (h' : FirstRejected entries setting' v') :
    setting = setting' ∧ v = v' := by
  have hsetting : setting = setting' := by
    by_contra hne
    -- One of the two is checked before the other.
    have hbefore : setting ∈ Setting.all.takeWhile (· ≠ setting') ∨
        setting' ∈ Setting.all.takeWhile (· ≠ setting) := by
      revert hne
      cases setting <;> cases setting' <;> decide
    obtain hbefore | hbefore := hbefore
    · exact h.not_passes (h'.before setting hbefore)
    · exact h'.not_passes (h.before setting' hbefore)
  subst hsetting
  exact ⟨rfl, Option.some.inj (h.found.symm.trans h'.found)⟩

/-! ## Unknown keys -/

/-- A key is known if it is the same key as that of a setting. -/
theorem isKnown_eq (key : Value) :
    isKnown key = Setting.all.any fun setting => key.sameKey (.text setting.key) := by
  cases key with
  | text s =>
    have hsame (setting : Setting) : (Value.text s).sameKey (.text setting.key) =
        (setting.key == s) := Bool.beq_comm
    simp only [isKnown, Setting.ofKey?, hsame, List.isSome_find?]
  | _ => rfl

theorem isKnown_key (setting : Setting) : isKnown (.text setting.key) = true := by
  cases setting <;> decide

theorem warned_eq (entries : List (Value × Value)) :
    warned entries =
      ((entries.map Prod.fst).filter fun key => Setting.all.all fun setting =>
        !key.sameKey (.text setting.key)).takeWhile (!·.isLong) := by
  simp only [warned, isKnown_eq, List.not_any_eq_all_not]

/-- The entries of settings have no unknown keys. -/
theorem isKnown_of_subset {s : Settings} (h : entries ⊆ s.entries) {e : Value × Value}
    (he : e ∈ entries) : isKnown e.1 = true := by
  obtain ⟨setting, -, rfl⟩ := List.mem_map.1 (h he)
  exact isKnown_key setting

theorem warned_of_subset {s : Settings} (h : entries ⊆ s.entries) : warned entries = [] := by
  have hnone : (entries.map Prod.fst).filter (!isKnown ·) = [] := by
    rw [List.filter_eq_nil_iff]
    intro key hkey
    obtain ⟨e, he, rfl⟩ := List.mem_map.1 hkey
    simp [isKnown_of_subset h he]
  rw [warned, hnone, List.takeWhile_nil]

theorem accepted_of_subset {s : Settings} (h : entries ⊆ s.entries) :
    accepted entries = ofEntries entries := by
  refine if_neg ?_
  rintro ⟨e, he, hlong⟩
  have hknown := isKnown_of_subset h he
  rw [isKnown_of_isLong hlong] at hknown
  cases hknown

/-! ## Validation -/

theorem exists_eq_ok_iff (entries : List (Value × Value)) :
    (∃ s, ofEntries entries = .ok s) ↔ ∀ setting, Passes entries setting := by
  obtain ⟨setting, v, hfirst, herror⟩ | ⟨hpasses, s, hok, -⟩ := isVerdict_ofEntries entries
  · refine iff_of_false ?_ fun hpasses => hfirst.not_passes (hpasses setting)
    rintro ⟨s, hok⟩
    rw [herror] at hok
    cases hok
  · exact iff_of_true ⟨s, hok⟩ hpasses

theorem ofEntries_eq_error_iff (entries : List (Value × Value)) (fault : Fault) :
    ofEntries entries = .error fault ↔
      ∃ setting v, FirstRejected entries setting v ∧ fault = setting.complaint v := by
  obtain ⟨setting, v, hfirst, herror⟩ | ⟨hpasses, s, hok, -⟩ := isVerdict_ofEntries entries
  · rw [herror]
    constructor
    · rintro ⟨⟩
      exact ⟨setting, v, hfirst, rfl⟩
    · rintro ⟨setting', v', hfirst', rfl⟩
      obtain ⟨rfl, rfl⟩ := hfirst.unique hfirst'
      rfl
  · refine iff_of_false (by simp [hok]) ?_
    rintro ⟨setting, v, hfirst, -⟩
    exact hfirst.not_passes (hpasses setting)

theorem entries_of_ofEntries {s : Settings} (h : ofEntries entries = .ok s) :
    s.entries = Setting.all.map fun setting => (.text setting.key, outcome entries setting) := by
  obtain ⟨setting, v, -, herror⟩ | ⟨-, s', hok, hget⟩ := isVerdict_ofEntries entries
  · rw [h] at herror
    cases herror
  · rw [h] at hok
    cases hok
    exact List.map_congr_left fun setting _ => by rw [hget]

/-- **Which settings are accepted, and what of the others.** Unknown keys are warned about first, one
by one in the order of the entries, up to one that cannot be printed; that ends it. Without such a
key, entries are accepted exactly if every setting takes what is in them for it; the settings are
then what is given and the defaults for the rest, and to validate them again changes nothing and
warns of nothing. Otherwise the fault is the complaint about the first setting that does not take
its value, in the order of the settings. -/
theorem validate_accepts_iff {σ : Type} (entries : List (Value × Value)) (t : σ) :
    let unknown := (entries.map Prod.fst).filter fun key => Setting.all.all fun setting =>
      !key.sameKey (.text setting.key)
    ∃ r, (validate entries : Act σ Settings).run t =
        ⟨r, t, (unknown.takeWhile (!·.isLong)).map fun key =>
          ⟨.warning, .settings, "Ignoring unknown setting '" ++ key.plain ++ "'", none⟩⟩ ∧
      ((∃ s, r = .ok s) ↔
        (∀ key ∈ unknown, key.isLong = false) ∧ ∀ setting, Passes entries setting) ∧
      (∀ s, r = .ok s →
        s.entries = Setting.all.map (fun setting => (.text setting.key, outcome entries setting)) ∧
        (validate s.entries : Act σ Settings).run t = ⟨.ok s, t, []⟩) ∧
      ∀ fault, r = .error fault ↔
        (∃ key ∈ unknown, key.isLong = true) ∧ fault = .mishap .badText ∨
        (∀ key ∈ unknown, key.isLong = false) ∧
          ∃ setting v, FirstRejected entries setting v ∧ fault = setting.complaint v := by
  intro unknown
  -- A key that cannot be printed is unknown anyway.
  have hlong : (∃ key ∈ unknown, key.isLong = true) ↔ HoldsLongKey entries := by
    simp only [unknown, List.mem_filter, List.mem_map, ← List.not_any_eq_all_not, ← isKnown_eq]
    constructor
    · rintro ⟨key, ⟨⟨e, he, rfl⟩, -⟩, hlong⟩
      exact ⟨e, he, hlong⟩
    · rintro ⟨e, he, hlong⟩
      exact ⟨e.1, ⟨⟨e, he, rfl⟩, by rw [isKnown_of_isLong hlong]; rfl⟩, hlong⟩
  have hshort : (∀ key ∈ unknown, key.isLong = false) ↔ ¬ HoldsLongKey entries := by
    simp only [← hlong, not_exists, not_and, Bool.not_eq_true]
  rw [hlong, hshort]
  refine ⟨accepted entries, ?_, ?_, fun s hs => ?_, fun fault => ?_⟩
  · rw [run_validate_warning, warned_eq]
    rfl
  · by_cases hkey : HoldsLongKey entries
    · rw [accepted, if_pos hkey]
      exact iff_of_false (by simp) fun h => h.1 hkey
    · rw [accepted, if_neg hkey, and_iff_right hkey]
      exact exists_eq_ok_iff entries
  · have hof := ofEntries_of_accepted hs
    refine ⟨entries_of_ofEntries hof, ?_⟩
    have hself := List.Subset.refl s.entries
    rw [run_validate_warning, accepted_of_subset hself, ofEntries_entries (isValid_of_ofEntries hof),
      warned_of_subset hself, List.map_nil]
  · by_cases hkey : HoldsLongKey entries
    · rw [accepted, if_pos hkey]
      simp only [hkey, true_and, not_true_eq_false, false_and, or_false, Except.error.injEq]
      exact eq_comm
    · rw [accepted, if_neg hkey]
      simp only [hkey, false_and, not_false_eq_true, true_and, false_or]
      exact ofEntries_eq_error_iff entries fault

/-- An interval of a one with four hundred zeros is beyond thirty, and it is not refused. -/
theorem not_validate_refuses_ten_pow_400 :
    let entries := [(.text "pollInterval", .int (Nat.pow 10 400 : Nat))]
    let r := ((validate entries : Act Unit Settings).run ()).result
    r = .error (.mishap .tooLarge) ∧ r ≠ .error (.settings .badInterval) := by
  intro entries r
  have hhuge : HoldsHuge entries .interval := ⟨_, rfl, by decide +kernel⟩
  have hkey : ¬ HoldsLongKey entries := by
    rintro ⟨e, he, hlong⟩
    rw [List.mem_singleton.1 he] at hlong
    cases hlong
  have hr : r = .error (.mishap .tooLarge) := by
    simp only [r, run_validate_warning, accepted, if_neg hkey]
    exact ofEntries_of_overflows (.interval ⟨_, rfl⟩ ⟨_, rfl⟩ ⟨_, rfl⟩ ⟨_, rfl⟩ hhuge)
  rw [hr]
  exact ⟨rfl, by simp⟩

end Settings

end Translucency
