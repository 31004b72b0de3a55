import Translucency.Proofs.Opacity.Clamping
import Translucency.Proofs.Settings.Loading

/-!
# The opacity in accepted settings

Settings that were accepted hold an opacity that is a finite number, so turning it into a fraction
needs none of the defaults and cannot go wrong: `Opacity.run_clamp` says that it is `fraction`, with
nothing logged.
-/

namespace Translucency

/-- Whether a number is finite as a floating point number. -/
def Number.IsFinite (n : Number) : Prop := n.toBinary64.isFinite = true

namespace Opacity

/-- The opacity for a number of percent: limited, and divided by a hundred. -/
def fraction (n : Number) : Binary64 := (limit n.toBinary64).divNat 100

theorem toBinary64_configured {n : Number} (h : n.IsFinite) :
    (configured n.value).toBinary64 = .ok n.toBinary64 := by
  unfold Number.IsFinite at h
  cases n with
  | whole n =>
    have hread : configured (Number.whole n).value = .int n := rfl
    rw [hread]
    exact if_pos h
  | real x => rfl

/-- A finite number of percent gives its fraction, without a word in the log. -/
theorem run_clamp {σ : Type} {n : Number} (h : n.IsFinite) (room : Nat) (s : σ) :
    (clamp n.value room : Act σ Binary64).run s = ⟨.ok (fraction n), s, []⟩ := by
  have hread : (readPercent n.value room : Act σ Binary64).run s = ⟨.ok n.toBinary64, s, []⟩ := by
    unfold Number.IsFinite at h
    simp only [readPercent, toBinary64_configured h, if_pos h]
    rfl
  rw [clamp, Act.run_bind_eq hread]
  rfl

/-- It stands for itself, limited to what is allowed, and its fraction is a hundredth of that. -/
theorem exists_fraction_eq {n : Number} (h : n.IsFinite) :
    ∃ (p : Binary64) (size : Int), Stands n.value size ∧ p.hasSize size = true ∧
      fraction n = p.divNat 100 ∧ InRange (fraction n) := by
  have hsmall : ¬ n.value.IsTooLarge := by
    rintro ⟨m, hm, hlarge⟩
    cases n with
    | whole m' =>
      cases hm
      exact Nat.not_lt_of_le hlarge ((Binary64.isFinite_ofInt_iff m).1 h)
    | real x => cases hm
  have hprint : n.value.IsPrintable 0 := by
    apply isPrintable_of_ne_collection hsmall <;> cases n <;> exact nofun
  obtain ⟨p, size, log, hstands, hsize, hrange, hrun⟩ := exists_run_clamp hsmall hprint ()
  have hfraction : fraction n = p.divNat 100 := by
    rw [run_clamp h, Outcome.mk.injEq, Except.ok.injEq] at hrun
    exact hrun.1
  exact ⟨p, size, hstands, hsize, hfraction, hfraction ▸ hrange⟩

end Opacity

namespace Settings

theorem isFinite_of_finiteNumber? {v : Value} {n : Number} (h : finiteNumber? v = .ok (some n)) :
    n.IsFinite := by
  unfold finiteNumber? at h
  split at h
  · split at h
    · next hfinite =>
      cases h
      exact hfinite
    · cases h
  · split at h
    · next hfinite =>
      cases h
      exact hfinite
    · cases h
  · cases h

theorem isFinite_of_ofEntries {entries : List (Value × Value)} {s : Settings}
    (h : ofEntries entries = .ok s) : s.opacity.IsFinite := by
  dsimp only [ofEntries] at h
  obtain ⟨opacity, hopacity, h⟩ := bind_eq_ok_iff.1 h
  obtain ⟨_, _, h⟩ := bind_eq_ok_iff.1 h
  obtain ⟨_, _, h⟩ := bind_eq_ok_iff.1 h
  obtain ⟨_, _, h⟩ := bind_eq_ok_iff.1 h
  obtain ⟨_, _, h⟩ := bind_eq_ok_iff.1 h
  cases h
  unfold readOr at hopacity
  split at hopacity
  · obtain ⟨n?, hnumber, h⟩ := bind_eq_ok_iff.1 hopacity
    cases n? with
    | none => cases h
    | some n =>
      cases h
      exact isFinite_of_finiteNumber? hnumber
  · -- There is no such entry, and the default is a small integer.
    have hdefault : (Number.whole 70).IsFinite :=
      Binary64.isFinite_ofInt (show 70 < 2 ^ 7 by decide) (by decide)
    cases hopacity
    exact hdefault

end Settings

theorem Loader.isFinite_of_fresh {path : String} {format : SettingsFormat} {file : File}
    {s : Settings} (h : fresh path format file = .ok s) : s.opacity.IsFinite := by
  obtain ⟨entries, _, hentries⟩ := bind_eq_ok_iff.1 h
  exact Settings.isFinite_of_ofEntries (Settings.ofEntries_of_accepted hentries)

end Translucency
