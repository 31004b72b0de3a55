import Translucency.Controller
import Translucency.Proofs.Settings.Requests
import Translucency.Proofs.Settings.Validity

/-!
# The settings in force

Those who read a setting do not check it again. They rely on this: whatever happens to the file and
whatever a loader is asked for, failures of all kinds included, the settings in force are those of
the last load that succeeded, all of them, or the defaults if there was none, and they are valid.

What settings are valid is a matter of `Settings.isValid_of_ofEntries`, and that nothing else ever
gets into a loader of `Site.follows_after`. Here the two are put together
(`Site.settings_valid_after_any_history`), with what they mean for a reader of a setting, for the
opacity of a window and for the monitor.
-/

namespace Translucency

namespace Loader

/-- What a file gives to whoever reads it is valid. -/
theorem isValid_of_fresh {path : String} {format : SettingsFormat} {file : File} {s : Settings}
    (h : fresh path format file = .ok s) : s.IsValid := by
  obtain ⟨entries, -, hentries⟩ := bind_eq_ok_iff.1 h
  exact Settings.isValid_of_ofEntries (Settings.ofEntries_of_accepted hentries)

/-- A look at the file keeps valid settings valid, with whatever result. -/
theorem isValid_look {l : Loader} (h : l.settings.IsValid) (file : File) :
    (l.look file).settings.IsValid := by
  unfold look
  split
  · split
    · next settings hfresh => exact isValid_of_fresh hfresh
    · exact h
  · exact h

theorem Site.Follows.isValid {path : String} {format : SettingsFormat} {l : Loader}
    {last : Option File} (h : Follows path format l last) : l.settings.IsValid := by
  obtain ⟨-, rfl⟩ | ⟨f, settings, -, hfresh, rfl⟩ := h.cases_last
  · exact Settings.isValid_default
  · exact isValid_of_fresh hfresh

/-- Reading a setting gives the one in force after a look at the file, whatever the default. -/
theorem result_lookup (file : File) (l : Loader) (setting : Setting) (default : Value) :
    ((lookup file setting.key default).run l).result =
      ((reload file).run l).result.map fun _ =>
        ((reload file).run l).state.settings.get setting := by
  obtain ⟨log, hreload, -⟩ := run_reload file l
  rw [run_lookup setting.key default hreload, hreload, value_key]

end Loader

namespace Controller

variable {σ : Type} (c : Controller σ)

/-- A controller whose loader has valid settings sets its monitor up with a poll interval, or
fails. -/
theorem isInterval_prepare {s : σ} (h : (c.loader.get s).settings.IsValid)
    (hok : (c.prepare.run s).result = .ok ()) :
    (c.monitor.get (c.prepare.run s).state).interval.IsInterval := by
  obtain ⟨log, hreload, -⟩ := Loader.run_reload (c.settingsFile s) (c.loader.get s)
  have hsettings : c.settings.run s =
      ⟨((c.loader.get s).verdict (c.settingsFile s)).map fun _ =>
          ((c.loader.get s).look (c.settingsFile s)).settings,
        c.loader.set ((c.loader.get s).look (c.settingsFile s)) s, log⟩ := by
    rw [settings, Act.run_bind_eq (Act.run_read s), Part.run_eq (Loader.run_current hreload)]
    rfl
  have hvalid := Loader.isValid_look h (c.settingsFile s)
  cases hverdict : (c.loader.get s).verdict (c.settingsFile s) with
  | error fault =>
    rw [hverdict] at hsettings
    rw [prepare, Act.run_bind_eq_of_error hsettings] at hok
    cases hok
  | ok _ =>
    rw [hverdict] at hsettings
    rw [prepare, Act.run_bind_eq hsettings, Part.run_change, Outcome.after_mk, c.monitor.get_set]
    exact hvalid.interval

end Controller

namespace Loader.Site

/-- **The settings in force are always valid and whole.** After every history of a new loader, they
are the defaults if no load has succeeded, and else exactly what the last successful load gives to a
new loader. They are all five settings, each of its kind. Hence the reading of a setting never gives
the default of the caller, the opacity in force is limited and divided without a fault or a word in
the log, and a controller with this loader sets its monitor up with a poll interval, or fails. -/
theorem settings_valid_after_any_history (path : String) (format : SettingsFormat) (file : File)
    (moves : List Move) :
    let s := after path format file moves
    let inForce := s.loader.settings
    (lastLoad path format file moves = none → inForce = {}) ∧
    (∀ loaded, lastLoad path format file moves = some loaded →
      let once := (load loaded).run (new path format)
      once.result = .ok () ∧ inForce = once.state.settings) ∧
    Settings.IsWhole inForce.entries ∧
    (∀ (setting : Setting) (default : Value),
      let looked := (reload s.file).run s.loader
      setting.Admits (looked.state.settings.get setting) ∧
      ((lookup s.file setting.key default).run s.loader).result =
        looked.result.map fun _ => looked.state.settings.get setting) ∧
    (∀ (σ : Type) (room : Nat) (state : σ),
      (Opacity.clamp (inForce.get .opacity) room : Act σ Binary64).run state =
        ⟨.ok ((Opacity.limit inForce.opacity.toBinary64).divNat 100), state, []⟩) ∧
    (∀ (σ : Type) (c : Controller σ) (state : σ), c.loader.get state = s.loader →
      (c.prepare.run state).result = .ok () →
        (c.monitor.get (c.prepare.run state).state).interval.IsInterval) := by
  intro s inForce
  have hfollows : Follows path format s.loader (lastLoad path format file moves) :=
    follows_after moves
  have hvalid : inForce.IsValid := hfollows.isValid
  refine ⟨fun hnone => ?_, fun loaded hloaded => ?_, hvalid.isWhole_entries,
    fun setting default => ⟨?_, result_lookup s.file s.loader setting default⟩,
    fun σ room state => Opacity.run_clamp hvalid.opacity room state, fun σ c state hloader hok => ?_⟩
  · show s.loader.settings = _
    rw [hfollows.loader, hnone]
    rfl
  · obtain ⟨settings, hfresh⟩ := hfollows.loads loaded hloaded
    refine ⟨?_, ?_⟩
    · rw [result_load]
      exact congrArg (Except.map _) hfresh
    · show s.loader.settings = _
      rw [hfollows.loader, hloaded]
      rfl
  · obtain ⟨log, hreload, -⟩ := run_reload s.file s.loader
    rw [hreload]
    exact (isValid_look hvalid s.file).admits setting
  · refine c.isInterval_prepare ?_ hok
    rw [hloader]
    exact hvalid

end Loader.Site

end Translucency
