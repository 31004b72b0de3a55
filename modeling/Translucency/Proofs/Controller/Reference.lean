import Translucency.Opacity.Policy
import Translucency.Proofs.Exclusion.Grammar
import Translucency.Proofs.Settings.Finite
import Translucency.Proofs.Source.Simulated

/-!
# What a controller of simulated windows is to do

The reference keeps as little as the task allows: which windows the last listing showed, which
opacities were set, and the settings of the last file that gave some. It has no cache of patterns
and does not look at times: it reads the settings file anew for each window it gives an opacity
(`Reference.give`). What it does at a listing is said in one place, `Reference.poll`.

It also keeps the file that the settings came from. Nothing it does depends on that; it is there to
say what `Reference.Admits` asks of the world: a file that cannot be used is refused, and a file
with the time of the one in force is that one.
-/

namespace Translucency

/-- What a controller of simulated windows is to keep. -/
structure Reference where
  /-- What stands at each path. -/
  files : String → File
  settingsPath : String
  format : SettingsFormat
  windowsPath : String
  settings : Settings
  /-- The file that gave the settings. -/
  origin : File
  /-- The windows of the last listing. -/
  present : List String
  opacities : String → Option Binary64

namespace Reference

/-- The settings file as it stands. -/
def settingsFile (r : Reference) : File := r.files r.settingsPath

/-- The windows as they stand, or nothing if they cannot be listed. -/
def snapshot? (r : Reference) : Option (List Window) :=
  Simulation.snapshot? (r.files r.windowsPath)

/-- The settings are read from their file. If it gives none, they stay. -/
def load (r : Reference) : Reference :=
  match Loader.fresh r.settingsPath r.format r.settingsFile with
  | .ok settings => { r with settings := settings, origin := r.settingsFile }
  | .error _ => r

/-- Whether a window is to get an opacity under settings: it is an ordinary one that does not fill
the screen, and the exclusion list does not speak of it. -/
def wants (settings : Settings) (w : Window) : Bool :=
  Opacity.isEligible (some w) &&
    match w.identity with
    | .ok identity => !Exclusion.isExcluded (some settings.exclusions) identity
    | .error _ => false

/-- The opacities with the one of a window set, if it is to get one. -/
def paint (settings : Settings) (w : Window) (opacities : String → Option Binary64) :
    String → Option Binary64 :=
  if wants settings w then
    fun id => if id = w.id then some (Opacity.fraction settings.opacity) else opacities id
  else opacities

/-- A window gets its opacity, by the settings as they stand in the file at this moment. -/
def give (r : Reference) (w : Window) : Reference :=
  { r.load with opacities := paint r.load.settings w r.opacities }

/-- A listing. The windows that the last one did not show get their opacity; a listing that fails
changes nothing. -/
def poll (r : Reference) : Reference :=
  match r.snapshot? with
  | none => r
  | some windows =>
    { (windows.filter fun w => !r.present.contains w.id).foldl give r with
      present := windows.map (·.id) }

/-- The first listing, at which every window is new. -/
def start (r : Reference) : Reference := poll { r with present := [] }

/-! ## Moves -/

/-- What happens after the start. -/
inductive Move where
  /-- Something else stands at a path from now on. -/
  | write (path : String) (file : File)
  /-- A listing. -/
  | poll

/-- What the reference does at a move. -/
def step (r : Reference) : Move → Reference
  | .write path file => { r with files := fun other => if other = path then file else r.files other }
  | .poll => r.poll

/-- What is asked of the settings file where it is read: a file that gives no settings is refused
for what it says, or is not there, and a file with the time of the one in force is that one. -/
structure Admits (r : Reference) : Prop where
  refused : ∀ fault, Loader.fresh r.settingsPath r.format r.settingsFile = .error fault →
    Loader.isRefusal fault = true
  unchanged : r.settingsFile.changed? ≠ none → r.settingsFile.changed? = r.origin.changed? →
    r.settingsFile = r.origin

/-- The settings file is as asked at each listing of some moves. -/
def AdmitsAll (r : Reference) : List Move → Prop
  | [] => True
  | .write path file :: rest => (r.step (.write path file)).AdmitsAll rest
  | .poll :: rest => r.Admits ∧ r.poll.AdmitsAll rest

/-! ## Loading -/

/-- Loading changes the settings and where they came from, and nothing else. -/
theorem exists_load_eq (r : Reference) :
    ∃ settings origin, r.load = { r with settings := settings, origin := origin } := by
  unfold load
  split
  · exact ⟨_, _, rfl⟩
  · exact ⟨r.settings, r.origin, rfl⟩

@[simp] theorem load_load (r : Reference) : r.load.load = r.load := by
  cases hfresh : Loader.fresh r.settingsPath r.format r.settingsFile with
  | ok settings =>
    have hload : r.load = { r with settings := settings, origin := r.settingsFile } := by
      rw [load, hfresh]
    -- The file is the same as before, and so is what it gives.
    have hagain : Loader.fresh r.load.settingsPath r.load.format r.load.settingsFile =
        .ok settings := by
      rw [hload]
      exact hfresh
    rw [load, hagain, hload]
    rfl
  | error fault =>
    have hload : r.load = r := by rw [load, hfresh]
    rw [hload, hload]

/-- Reading a setting before a window gets its opacity makes no difference. -/
theorem give_load (r : Reference) (w : Window) : r.load.give w = r.give w := by
  obtain ⟨settings, origin, hload⟩ := exists_load_eq r
  have hopacities : r.load.opacities = r.opacities := by rw [hload]
  rw [give, load_load, hopacities]
  rfl

/-- A reading leaves the settings file as it was asked to be. -/
theorem Admits.load {r : Reference} (h : r.Admits) : r.load.Admits := by
  cases hfresh : Loader.fresh r.settingsPath r.format r.settingsFile with
  | ok settings =>
    have hload : r.load = { r with settings := settings, origin := r.settingsFile } := by
      rw [Reference.load, hfresh]
    rw [hload]
    exact ⟨h.refused, fun _ _ => rfl⟩
  | error fault =>
    have hload : r.load = r := by rw [Reference.load, hfresh]
    rwa [hload]

theorem Admits.give {r : Reference} (h : r.Admits) (w : Window) : (r.give w).Admits :=
  ⟨h.load.refused, h.load.unchanged⟩

/-- Neither does a listing, nor a write to another path, make the settings file unfit to be
read. -/
theorem Admits.poll {r : Reference} (h : r.Admits) : r.poll.Admits := by
  have hgive : ∀ (windows : List Window) {r : Reference}, r.Admits →
      (windows.foldl Reference.give r).Admits := by
    intro windows
    induction windows with
    | nil => exact fun h => h
    | cons w rest ih => exact fun h => ih (h.give w)
  unfold Reference.poll
  split
  · exact h
  · exact ⟨(hgive _ h).refused, (hgive _ h).unchanged⟩

theorem Admits.write {r : Reference} (h : r.Admits) {path : String} (hpath : path ≠ r.settingsPath)
    (file : File) : (r.step (.write path file)).Admits := by
  have hfile : (r.step (.write path file)).settingsFile = r.settingsFile := if_neg hpath.symm
  refine ⟨?_, ?_⟩
  · rw [hfile]
    exact h.refused
  · rw [hfile]
    exact h.unchanged

/-! ## Giving -/

/-- What a window shows as its opacity does not matter. -/
theorem foldl_give_recalled (opacities : List (String × Binary64)) (windows : List Window)
    (r : Reference) :
    (windows.map (Simulation.recalled opacities)).foldl give r = windows.foldl give r := by
  rw [List.foldl_map]
  rfl

/-- Which windows the last listing showed does not matter for the opacities, so it may be noted
before or after they are set. -/
theorem foldl_give_present (windows : List Window) (r : Reference) (present : List String) :
    windows.foldl give { r with present := present } =
      { windows.foldl give r with present := present } := by
  induction windows generalizing r with
  | nil => rfl
  | cons w rest ih =>
    -- Nothing that is read for a window depends on the windows that are present.
    have hgive : give { r with present := present } w = { r.give w with present := present } := by
      have hload : load { r with present := present } = { r.load with present := present } := by
        unfold load
        show (match Loader.fresh r.settingsPath r.format r.settingsFile with
          | .ok settings => _
          | .error _ => _) = _
        cases Loader.fresh r.settingsPath r.format r.settingsFile with
        | ok settings => rfl
        | error fault => rfl
      unfold give
      rw [hload]
    rw [List.foldl_cons, List.foldl_cons, hgive, ih]

@[simp] theorem present_foldl_give (windows : List Window) (r : Reference) :
    (windows.foldl give r).present = r.present := by
  have h := congrArg Reference.present (foldl_give_present windows r r.present)
  exact h

end Reference

end Translucency
