import Translucency.Program.Machine
import Translucency.Proofs.Controller.Deciding

/-!
# What the controller does with one window

The controller reads its settings several times for one window: for the opacity, for the exclusion
list, and for the question whether errors of the list are to be visible. Only the first of these
readings can do anything. After it the machine is settled (`Machine.Settled`): a look at the
settings file succeeds and leaves everything as it is, whatever becomes of the pattern cache
meanwhile. `Machine.run_applyTo` says what the whole amounts to, for a sound cache and settings with
a finite opacity: one look, then what `Reference.paint` says, and nothing else but a pattern cache
that is sound again.
-/

namespace Translucency

/-- The opacity that a window was given. -/
def Simulation.opacity? (s : Simulation) (id : String) : Option Binary64 := s.opacities.lookup id

namespace Machine

open Exclusion

/-- The machine after a look at the settings file. -/
def look (m : Machine) : Machine := { m with loader := m.loader.look m.settingsFile }

/-- The records of a look at the settings file. -/
def notes (m : Machine) : List Record := ((Loader.reload m.settingsFile).run m.loader).log

/-- Whether a look at the settings file succeeds. -/
def Reads (m : Machine) : Prop := m.loader.verdict m.settingsFile = .ok ()

/-- Whether a look at the settings file succeeds and finds nothing new. -/
structure Settled (m : Machine) : Prop where
  reads : m.Reads
  look_eq : m.look = m

/-! ## Looking -/

/-- A look leaves the settings file where it is. -/
theorem settingsFile_look (m : Machine) : m.look.settingsFile = m.settingsFile := by
  show m.file (m.loader.look m.settingsFile).path = m.file m.loader.path
  rw [Loader.path_look]

/-- One look settles a machine. -/
theorem Reads.settled_look {m : Machine} (h : m.Reads) : m.look.Settled := by
  obtain ⟨hlook, hverdict⟩ := m.loader.look_look m.settingsFile
  have hfile := settingsFile_look m
  refine ⟨?_, ?_⟩
  · unfold Reads
    rw [hfile]
    exact hverdict h
  · have hloader : m.look.loader.look m.look.settingsFile = m.look.loader := by
      rw [hfile]
      exact hlook
    unfold look at hloader ⊢
    rw [hloader]

/-- A settled machine stays so when the pattern cache changes. -/
theorem Settled.withCache {m : Machine} (h : m.Settled) (cache : Cache) :
    Settled { m with cache := cache } := by
  refine ⟨h.reads, ?_⟩
  have hloader : m.loader.look m.settingsFile = m.loader := congrArg Machine.loader h.look_eq
  show { m with loader := m.loader.look m.settingsFile, cache := cache } = _
  rw [hloader]

/-- Reading the settings is a look at their file. -/
theorem run_settings {m : Machine} (h : m.Reads) :
    (controller true).settings.run m = ⟨.ok m.look.loader.settings, m.look, m.notes⟩ := by
  obtain ⟨log, hreload, -⟩ := Loader.run_reload m.settingsFile m.loader
  have hlog : m.notes = log := by rw [notes, hreload]
  have hcurrent := Loader.run_current hreload
  rw [h] at hcurrent
  rw [hlog, Controller.settings, Act.run_bind_eq (Act.run_read m), Outcome.after_nil]
  exact Part.run_eq hcurrent

theorem Settled.run_settings {m : Machine} (h : m.Settled) :
    (controller true).settings.run m = ⟨.ok m.loader.settings, m, m.notes⟩ := by
  rw [Machine.run_settings h.reads, h.look_eq]

/-- A settled machine finds the settings in force, however often it reads them. -/
theorem Settled.finds {m : Machine} (h : m.Settled) :
    (controller true).Finds m.loader.settings m :=
  ⟨m.notes, fun cache => (h.withCache cache).run_settings⟩

/-! ## Acting -/

/-- **What the controller does with one window.** It looks at the settings file and sets the opacity
that the reference sets. -/
theorem run_applyTo {m : Machine} (h : m.Reads) (hsound : m.cache.IsSound)
    (hfinite : m.look.loader.settings.opacity.IsFinite) {w : Window} {identity : List Char}
    (hidentity : w.identity = .ok identity) :
    ∃ result cache opacities log, result.1.id = w.id ∧ cache.IsSound ∧
      (∀ id, opacities.lookup id =
        Reference.paint m.look.loader.settings w m.simulation.opacity? id) ∧
      ((controller true).applyTo w).run m =
        ⟨.ok result,
          { m.look with
            cache := cache
            simulation := { m.simulation with opacities := opacities } }, log⟩ := by
  let settings := m.look.loader.settings
  let x := Opacity.fraction settings.opacity
  let cache := m.cache.afterWindow settings w
  have hcache : cache.IsSound := hsound.afterWindow _ w
  have hfinds := h.settled_look.finds
  unfold Reference.paint
  -- What is left is to set the opacity, which cannot fail, or to leave the window alone.
  cases hwants : Reference.wants settings w with
  | false =>
    obtain ⟨log, hrun⟩ :=
      hfinds.run_applyTo_of_not_wants (run_settings h) hsound hfinite hidentity hwants
    exact ⟨(w, none), cache, m.simulation.opacities, log, rfl, hcache, fun _ => rfl, hrun⟩
  | true =>
    let opacities := Simulation.put w.id x m.simulation.opacities
    have hset : ((controller true).source.setOpacity w x).run { m.look with cache := cache } =
        ⟨.ok (), { m.look with
          cache := cache
          simulation := { m.simulation with opacities := opacities } }, _⟩ := rfl
    obtain ⟨log, hrun⟩ :=
      hfinds.run_applyTo_of_wants (run_settings h) hsound hfinite hidentity hwants hset
    refine ⟨({ w with opacity := .float x }, some x), cache, opacities, log, rfl, hcache,
      fun id => ?_, hrun⟩
    rw [Simulation.lookup_put]
    rfl

end Machine

end Translucency
