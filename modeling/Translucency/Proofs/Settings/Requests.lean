import Translucency.Proofs.Settings.Loading

/-!
# A loader in use

A loader is asked to load its file, to reload it, or for a setting, while the file is written,
touched, removed, replaced by a directory and put back. A request loads the file or leaves the
loader as it was (`Request.state_act`), and so does a load that fails. Hence all that a history
leaves in a loader is the file of its last successful load: a new loader that has loaded that one
file is the same loader (`Site.follows_after`).

A history is a list of moves with the latest first, so that what it amounts to is a recursion on
what came before.
-/

namespace Translucency.Loader

/-- A loader that has not loaded anything. -/
def new (path : String) (format : SettingsFormat) : Loader := { path, format }

/-! ## Requests -/

/-- What a loader is asked for. -/
inductive Request where
  | load
  | reload
  | read (key : String) (default : Value)

namespace Request

/-- What a request does, with the file as it is. Only reading a setting gives a value. -/
def act (file : File) : Request → Act Loader (Option Value)
  | load => do Loader.load file; return none
  | reload => do Loader.reload file; return none
  | read key default => some <$> Loader.lookup file key default

/-- Whether a request loads the file. A load does so at any rate, the others if the file has another
time than the remembered one. -/
def Loads (l : Loader) (file : File) : Request → Prop
  | load => True
  | reload => l.IsStale file
  | read _ _ => l.IsStale file

instance (l : Loader) (file : File) : DecidablePred (Loads l file)
  | load => inferInstanceAs (Decidable True)
  | reload => inferInstanceAs (Decidable (l.IsStale file))
  | read _ _ => inferInstanceAs (Decidable (l.IsStale file))

end Request

/-! ## One request -/

theorem state_load_of_error {file : File} {l : Loader} {fault : Fault}
    (h : fresh l.path l.format file = .error fault) : ((load file).run l).state = l := by
  obtain ⟨log, hload⟩ := run_load_of_error h
  rw [hload]

theorem state_load_of_ok {file : File} {l : Loader} {settings : Settings}
    (h : fresh l.path l.format file = .ok settings) :
    ((load file).run l).state = { l with settings := settings, loaded := file.changed? } := by
  obtain ⟨log, hload⟩ := run_load_of_ok h
  rw [hload]

/-- A load succeeds with the settings that the file gives to whoever reads it, or fails with the
fault that keeps it from giving any. -/
theorem result_load (file : File) (l : Loader) :
    ((load file).run l).result = (fresh l.path l.format file).map fun _ => () := by
  cases hfresh : fresh l.path l.format file with
  | ok settings =>
    obtain ⟨log, hload⟩ := run_load_of_ok hfresh
    rw [hload]
    rfl
  | error fault =>
    obtain ⟨log, hload⟩ := run_load_of_error hfresh
    rw [hload]
    rfl

theorem isOk_load_iff {file : File} {l : Loader} :
    ((load file).run l).result.isOk = true ↔
      ∃ settings, fresh l.path l.format file = .ok settings := by
  rw [result_load]
  cases fresh l.path l.format file with
  | ok settings => exact iff_of_true rfl ⟨settings, rfl⟩
  | error fault => exact iff_of_false (by simp [Except.map, Except.isOk, Except.toBool]) (by simp)

/-- A setting is found under its key. -/
@[simp] theorem value_key (l : Loader) (setting : Setting) (default : Value) :
    l.value setting.key default = l.settings.get setting := by
  have hkey : Setting.ofKey? setting.key = some setting := by
    cases setting <;> decide
  rw [value, hkey]

/-- A look at a file that is stale loads it. -/
theorem look_eq_state_load (l : Loader) (file : File) :
    l.look file = if l.IsStale file then ((load file).run l).state else l := by
  unfold look
  congr 1
  cases hfresh : fresh l.path l.format file with
  | ok settings => exact (state_load_of_ok hfresh).symm
  | error fault => exact (state_load_of_error hfresh).symm

/-- **What a request changes.** It loads the file, or leaves the loader as it was. -/
theorem Request.state_act (request : Request) (file : File) (l : Loader) :
    ((request.act file).run l).state =
      if request.Loads l file then ((Loader.load file).run l).state else l := by
  obtain ⟨log, hreload, -⟩ := run_reload file l
  cases request with
  | load =>
    simp only [act, bind_pure_comp, Act.run_map, Loads]
    exact (if_pos trivial).symm
  | reload =>
    simp only [act, bind_pure_comp, Act.run_map, hreload, Loads]
    exact look_eq_state_load l file
  | read key default =>
    simp only [act, Act.run_map, run_lookup key default hreload, Loads]
    exact look_eq_state_load l file

/-! ## Histories -/

/-- A loader and what stands at its path. -/
structure Site where
  loader : Loader
  file : File

/-- What happens at a path. -/
inductive Move where
  /-- Something else stands there from now on, or nothing. -/
  | place (file : File)
  /-- The loader is asked for something. -/
  | ask (request : Request)

namespace Site

def step (s : Site) : Move → Site
  | .place file => { s with file }
  | .ask request => { s with loader := ((request.act s.file).run s.loader).state }

variable (path : String) (format : SettingsFormat) (file : File)

/-- A new loader and what stands at its path, after moves, the latest first. -/
def after : List Move → Site
  | [] => { loader := new path format, file }
  | move :: past => (after past).step move

/-- The file that was loaded last. A load that failed does not count. -/
def lastLoad : List Move → Option File
  | [] => none
  | .place _ :: past => lastLoad past
  | .ask request :: past =>
    let s := after path format file past
    if request.Loads s.loader s.file ∧ ((load s.file).run s.loader).result.isOk then some s.file
    else lastLoad past

/-- A new loader that has loaded a file, if any. -/
def holding : Option File → Loader
  | none => new path format
  | some file => ((load file).run (new path format)).state

/-- Whether a loader is what the last load made it, which succeeded. -/
structure Follows (l : Loader) (last : Option File) : Prop where
  loader : l = holding path format last
  loads : ∀ f, last = some f → ∃ settings, fresh path format f = .ok settings

variable {path format file}

namespace Follows

variable {l : Loader} {last : Option File}

/-- A loader keeps its path, its format and nothing but the settings and the time of the last
load. -/
theorem cases_last (h : Follows path format l last) :
    (last = none ∧ l = new path format) ∨
      ∃ f settings, last = some f ∧ fresh path format f = .ok settings ∧
        l = { path, format, settings, loaded := f.changed? } := by
  cases hlast : last with
  | none => exact .inl ⟨rfl, by rw [h.loader, hlast, holding]⟩
  | some f =>
    obtain ⟨settings, hfresh⟩ := h.loads f hlast
    refine .inr ⟨f, settings, rfl, hfresh, ?_⟩
    rw [h.loader, hlast]
    exact state_load_of_ok hfresh

theorem path_eq (h : Follows path format l last) : l.path = path := by
  obtain ⟨-, rfl⟩ | ⟨f, settings, -, -, rfl⟩ := h.cases_last
  · rfl
  · rfl

theorem format_eq (h : Follows path format l last) : l.format = format := by
  obtain ⟨-, rfl⟩ | ⟨f, settings, -, -, rfl⟩ := h.cases_last
  · rfl
  · rfl

/-- Whether a file gives settings does not depend on what was loaded before. -/
theorem fresh_eq (h : Follows path format l last) (f : File) :
    fresh l.path l.format f = fresh path format f := by
  rw [h.path_eq, h.format_eq]

/-- A load that succeeds replaces what the last one made, and one that fails leaves it. -/
theorem load (h : Follows path format l last) (f : File) :
    Follows path format ((Loader.load f).run l).state
      (if ((Loader.load f).run l).result.isOk then some f else last) := by
  cases hfresh : fresh path format f with
  | ok settings =>
    have hl : fresh l.path l.format f = .ok settings := by rw [h.fresh_eq, hfresh]
    rw [if_pos (isOk_load_iff.2 ⟨settings, hl⟩), state_load_of_ok hl, h.path_eq, h.format_eq]
    refine ⟨(state_load_of_ok (l := new path format) hfresh).symm, ?_⟩
    rintro f' ⟨⟩
    exact ⟨settings, hfresh⟩
  | error fault =>
    have hl : fresh l.path l.format f = .error fault := by rw [h.fresh_eq, hfresh]
    have hfails : ¬ ((Loader.load f).run l).result.isOk = true := by
      rw [isOk_load_iff, hl]
      simp
    rw [if_neg hfails, state_load_of_error hl]
    exact h

end Follows

/-- A request keeps the loader as the last load made it. -/
theorem Follows.ask {l : Loader} {last : Option File} (h : Follows path format l last)
    (request : Request) (f : File) :
    Follows path format ((request.act f).run l).state
      (if request.Loads l f ∧ ((Loader.load f).run l).result.isOk then some f else last) := by
  rw [Request.state_act]
  by_cases hloads : request.Loads l f
  · simp only [hloads, true_and, if_true]
    exact h.load f
  · simp only [hloads, false_and, if_false]
    exact h

/-- Every history leaves the loader as its last successful load made it. -/
theorem follows_after (moves : List Move) :
    Follows path format (after path format file moves).loader
      (lastLoad path format file moves) := by
  induction moves with
  | nil => exact ⟨rfl, nofun⟩
  | cons move past ih =>
    cases move with
    | place f => exact ih
    | ask request => exact ih.ask request _

/-- A file that gives no settings is not the one loaded last after a request. -/
theorem lastLoad_ask_of_error {moves : List Move} {f : File} {fault : Fault}
    (h : fresh path format f = .error fault) (hfile : (after path format file moves).file = f)
    (request : Request) :
    lastLoad path format file (.ask request :: moves) = lastLoad path format file moves := by
  refine if_neg fun hload => ?_
  obtain ⟨settings, hfresh⟩ := isOk_load_iff.1 hload.2
  rw [(follows_after moves).fresh_eq, hfile, h] at hfresh
  cases hfresh

/-- A file that gives settings is the one loaded last after a load. -/
theorem lastLoad_load_of_ok {moves : List Move} {f : File} {settings : Settings}
    (h : fresh path format f = .ok settings) (hfile : (after path format file moves).file = f) :
    lastLoad path format file (.ask .load :: moves) = some f := by
  rw [lastLoad, hfile]
  refine if_pos ⟨trivial, isOk_load_iff.2 ⟨settings, ?_⟩⟩
  rw [(follows_after moves).fresh_eq, h]

end Site

end Translucency.Loader
