import Translucency.Controller
import Translucency.Proofs.Controller.Reference
import Translucency.Proofs.Exclusion.CacheUpdate

/-!
# What a controller does with one window

Deciding on a window reads the settings for the exclusion list, and perhaps once more, for the
question whether errors of the list are to be visible; by then the pattern cache may have changed.
If all these readings find the same settings and do nothing else (`Controller.Finds`), the decision
is that of the reference, and the cache is the only thing that it changes: the list is looked up in
it, unless the window is not asked about (`Window.asksList`).

What follows is a call of the source, if there is one, and a window that is given back
(`Controller.Finds.run_applyTo_of_wants`, `run_applyTo_of_not_wants`). All this holds of a controller
on any state. What a single controller has to show is that it finds its settings.
-/

namespace Translucency

open Exclusion

/-- Whether the exclusion list is asked about a window: it is of the kind that is touched, and it has
an identity. -/
def Window.asksList (w : Window) : Bool :=
  Opacity.isEligible (some w) &&
    match w.identity with
    | .ok identity => !identity.isEmpty
    | .error _ => false

/-- The pattern cache after a decision on a window. -/
def Exclusion.Cache.afterWindow (cache : Cache) (settings : Settings) (w : Window) : Cache :=
  if w.asksList then cache.after (some settings.exclusions) else cache

theorem Exclusion.Cache.IsSound.afterWindow {cache : Cache} (h : cache.IsSound)
    (settings : Settings) (w : Window) : (cache.afterWindow settings w).IsSound := by
  unfold Cache.afterWindow
  split
  · exact h.after _
  · exact h

namespace Controller

variable {σ : Type} {c : Controller σ} {settings : Settings} {s : σ}

/-- Whether every reading of the settings finds these and changes nothing, whatever becomes of the
pattern cache meanwhile. -/
def Finds (c : Controller σ) (settings : Settings) (s : σ) : Prop :=
  ∃ log, ∀ cache, c.settings.run (c.cache.set cache s) = ⟨.ok settings, c.cache.set cache s, log⟩

namespace Finds

variable (h : c.Finds settings s)

include h

theorem run_settings : ∃ log, c.settings.run s = ⟨.ok settings, s, log⟩ := by
  obtain ⟨log, hread⟩ := h
  have hhere := hread (c.cache.get s)
  rw [c.cache.set_get] at hhere
  exact ⟨log, hhere⟩

/-- The exclusion list decides as if it were compiled on the spot. -/
theorem run_excludes (hsound : (c.cache.get s).IsSound) {identity : List Char}
    (hne : identity ≠ []) :
    ∃ log, (c.matcher.excludes identity).run s =
      ⟨.ok (isExcluded (some settings.exclusions) identity),
        c.cache.set ((c.cache.get s).after (some settings.exclusions)) s, log⟩ := by
  obtain ⟨log, hhere⟩ := h.run_settings
  obtain ⟨asking, hread⟩ := h
  have hlist : c.matcher.list.run s = ⟨.ok (some settings.exclusions), s, log⟩ := by
    show (do return some (← c.settings).exclusions : Act _ _).run s = _
    rw [Act.run_bind_eq hhere]
    simp
  have hvisible : ∀ cache, c.matcher.visible.run (c.cache.set cache s) =
      ⟨.ok settings.showDebug, c.cache.set cache s, asking⟩ := by
    intro cache
    show (do return (← c.settings).showDebug : Act _ _).run _ = _
    rw [Act.run_bind_eq (hread cache)]
    simp
  exact c.matcher.run_excludes hne hlist hsound hvisible

/-- **The decision is that of the reference**, and only the pattern cache changes. -/
theorem run_desired (hsound : (c.cache.get s).IsSound) (hfinite : settings.opacity.IsFinite)
    {w : Window} {identity : List Char} (hidentity : w.identity = .ok identity) :
    ∃ log, (Opacity.desired c.matcher (some w) settings.opacity.value).run s =
      ⟨.ok (if Reference.wants settings w then some (Opacity.fraction settings.opacity) else none),
        c.cache.set ((c.cache.get s).afterWindow settings w) s, log⟩ := by
  simp only [Opacity.desired, Reference.wants, Cache.afterWindow, Window.asksList, hidentity]
  cases heligible : Opacity.isEligible (some w) with
  | false => exact ⟨[], by simp [c.cache.set_get]⟩
  | true =>
    simp only [Bool.not_true, Bool.false_eq_true, if_false, Bool.true_and]
    rw [Act.run_bind_eq (Act.run_lift _ s), Outcome.after_nil]
    by_cases hne : identity = []
    · -- Without an identity nothing is looked up, and nothing excludes the window.
      subst hne
      have hexcluded : isExcluded (some settings.exclusions) [] = false := rfl
      rw [Act.run_bind_eq (Matcher.run_excludes_nil c.matcher s)]
      simp only [Bool.false_eq_true, if_false, hexcluded]
      rw [Act.run_bind_eq (Opacity.run_clamp hfinite _ s)]
      exact ⟨_, by simp [c.cache.set_get]; rfl⟩
    · obtain ⟨log, hexcludes⟩ := h.run_excludes hsound hne
      rw [Act.run_bind_eq hexcludes, List.isEmpty_eq_false_iff.2 hne]
      cases isExcluded (some settings.exclusions) identity with
      | true => exact ⟨log, by simp⟩
      | false =>
        simp only [Bool.false_eq_true, if_false]
        rw [Act.run_bind_eq (Opacity.run_clamp hfinite _ _)]
        exact ⟨_, by simp; rfl⟩

variable {s₀ : σ} {reading : List Record} (hread : c.settings.run s₀ = ⟨.ok settings, s, reading⟩)

include hread

/-- A window that is to get no opacity is given back as it is. The first reading of the settings may
find new ones, and those after it do not. -/
theorem run_applyTo_of_not_wants (hsound : (c.cache.get s).IsSound)
    (hfinite : settings.opacity.IsFinite) {w : Window} {identity : List Char}
    (hidentity : w.identity = .ok identity) (hwants : Reference.wants settings w = false) :
    ∃ log, (c.applyTo w).run s₀ =
      ⟨.ok (w, none), c.cache.set ((c.cache.get s).afterWindow settings w) s, log⟩ := by
  obtain ⟨_, hdesired⟩ := h.run_desired hsound hfinite hidentity
  rw [applyTo, Act.run_bind_eq hread]
  unfold Opacity.apply
  rw [bind_assoc, Act.run_bind_eq hdesired, hwants]
  exact ⟨_, rfl⟩

/-- For the others the source is called, and whatever it answers, nothing more happens. -/
theorem run_applyTo_of_wants (hsound : (c.cache.get s).IsSound)
    (hfinite : settings.opacity.IsFinite) {w : Window} {identity : List Char}
    (hidentity : w.identity = .ok identity) (hwants : Reference.wants settings w = true)
    {answer : Except Fault Unit} {s' : σ} {log : List Record}
    (hset : (c.source.setOpacity w (Opacity.fraction settings.opacity)).run
      (c.cache.set ((c.cache.get s).afterWindow settings w) s) = ⟨answer, s', log⟩) :
    ∃ log, (c.applyTo w).run s₀ =
      ⟨.ok (if answer.isOk then
          ({ w with opacity := .float (Opacity.fraction settings.opacity) },
            some (Opacity.fraction settings.opacity))
        else (w, none)), s', log⟩ := by
  obtain ⟨_, hdesired⟩ := h.run_desired hsound hfinite hidentity
  rw [applyTo, Act.run_bind_eq hread]
  unfold Opacity.apply
  rw [bind_assoc, Act.run_bind_eq hdesired, hwants]
  simp only [if_true]
  rw [bind_assoc, Act.run_bind_eq (Act.run_attempt_eq hset)]
  cases answer with
  | ok _ => exact ⟨_, rfl⟩
  | error fault => exact ⟨_, rfl⟩

end Finds

end Controller

end Translucency
