import Translucency.Program.Run
import Translucency.Proofs.Settings.Loading

/-!
# What a run goes by

A run loads the settings from the file at the path of its machine's loader. If they are refused it
ends there, with status one (`run_of_error`). If not, the rest is done with these settings in force,
at their level (`run_of_ok`): the run says where its windows come from, lists them for the first
time, and ends with status one if they cannot be listed (`run_proceed_of_refused`).

`GoesBy` puts that together. What it says of a run it says by the loader and the window source that
the machine has, so it ties a run to what was chosen for the machine.
-/

namespace Translucency

/-! ## The machine of a run -/

namespace Machine

/-- The settings in the file of a machine, as they are read for the first time. -/
def freshSettings (m : Machine) : Except Fault Settings :=
  Loader.fresh m.loader.path m.loader.format m.settingsFile

/-- A machine after settings were loaded from its file. -/
def holding (m : Machine) (settings : Settings) : Machine :=
  { m with loader := { m.loader with settings := settings, loaded := m.settingsFile.changed? } }

/-- Where a controller of a machine has its windows from. -/
def windows (simulate : Bool) : Source Machine := if simulate then simulated else actual

/-- Loaded settings are read as they are until the file is changed. -/
theorem run_settings_holding (m : Machine) (settings : Settings) (simulate : Bool) :
    ∃ log, (controller simulate).settings.run (m.holding settings) =
      ⟨.ok settings, m.holding settings, log⟩ := by
  have hstale : ¬ (m.holding settings).loader.IsStale m.settingsFile := fun h => h.2 rfl
  obtain ⟨log, hreload, -⟩ := Loader.run_reload m.settingsFile (m.holding settings).loader
  have hcurrent := Loader.run_current hreload
  rw [Loader.verdict, Loader.look, if_neg hstale, if_neg hstale] at hcurrent
  refine ⟨log, ?_⟩
  rw [Controller.settings, Act.run_bind_eq (Act.run_read _), Outcome.after_nil]
  exact Part.run_eq (p := (controller simulate).loader) hcurrent

end Machine

/-! ## Loading -/

namespace Program

open Machine

variable {m : Machine} {settings : Settings} {options : Options}

theorem run_atLevel {α : Type} {a : Act Machine α} {s s' : Machine} {r : Except Fault α}
    {log : List Record} (level : Level) (h : a.run s = ⟨r, s', log⟩) :
    ∃ log, (atLevel level a).run s = ⟨r, s', log⟩ := by
  have hlevel : (atLevel level a).run s =
      { a.run s with log := (a.run s).log.filter fun r => level.rank ≤ r.level.rank } := rfl
  rw [hlevel, h]
  exact ⟨_, rfl⟩

theorem run_runStage {α : Type} {a : Act Machine α} {s s' : Machine} {r : Except Fault α}
    {log : List Record} (level : Level) (h : a.run s = ⟨r, s', log⟩) :
    ∃ log, (runStage level a).run s = ⟨.ok r, s', log⟩ := by
  obtain ⟨log, hrun⟩ := run_atLevel level h
  exact ⟨log, Act.run_attempt_eq hrun⟩

theorem run_load_of_ok (h : m.freshSettings = .ok settings) :
    ∃ log, load.run m = ⟨.ok none, m.holding settings, log⟩ := by
  obtain ⟨log, hload⟩ := Loader.run_load_of_ok h
  have hpart : ((controller false).loader.run (Loader.load m.settingsFile)).run m =
      ⟨.ok (), m.holding settings, log⟩ := Part.run_eq (p := (controller false).loader) hload
  rw [load, Act.run_bind_eq (Act.run_read m), Act.run_bind_eq (Act.run_attempt_eq hpart)]
  exact ⟨_, rfl⟩

/-- What a run ends with whose settings cannot be loaded. -/
def refusal (fault : Fault) : Except Fault (Option Nat) :=
  if Loader.isRefusal fault then .ok (some 1) else .error fault

theorem run_load_of_error {fault : Fault} (h : m.freshSettings = .error fault) :
    ∃ log, load.run m = ⟨refusal fault, m, log⟩ := by
  obtain ⟨log, hload⟩ := Loader.run_load_of_error h
  have hpart : ((controller false).loader.run (Loader.load m.settingsFile)).run m =
      ⟨.error fault, m, log⟩ := Part.run_eq (p := (controller false).loader) hload
  rw [load, Act.run_bind_eq (Act.run_read m), Act.run_bind_eq (Act.run_attempt_eq hpart)]
  cases fault <;> exact ⟨_, rfl⟩

/-! ## The first pass -/

/-- What is said of where the windows come from. -/
def introduction (simulate : Bool) (m : Machine) : Record where
  level := .info
  channel := .root
  message :=
    if simulate then "Running in SIMULATION MODE. Reading windows from " ++ m.simulation.path
    else Dependency.summary m.findings

theorem run_introduce (simulate : Bool) (m : Machine) :
    (introduce simulate).run m = ⟨.ok (), m, [introduction simulate m]⟩ := by
  cases simulate <;> rfl

/-- That is the first thing said. -/
theorem exists_log_proceed_eq_cons (simulate : Bool) (rounds : List (Act Machine Unit))
    (sleeps : Nat) (m : Machine) :
    ∃ rest, ((proceed simulate rounds sleeps).run m).log = introduction simulate m :: rest := by
  have hfirst : ∀ {α : Type} (f : Unit → Act Machine α),
      ∃ rest, ((introduce simulate >>= f).run m).log = introduction simulate m :: rest := by
    intro α f
    rw [Act.run_bind_eq (run_introduce simulate m)]
    exact ⟨_, rfl⟩
  obtain ⟨rest, hlaunch⟩ : ∃ rest,
      ((launch simulate).run m).log = introduction simulate m :: rest := hfirst _
  rw [proceed, Act.run_bind]
  split
  · exact ⟨rest, hlaunch⟩
  · exact ⟨rest ++ _, by rw [hlaunch]; rfl⟩

/-- A run that cannot list its windows ends with status one. -/
theorem run_proceed_of_refused {simulate : Bool} {text : String}
    (h : ((windows simulate).list.run (m.holding settings)).result = .error (.source text))
    (rounds : List (Act Machine Unit)) (sleeps : Nat) :
    ((proceed simulate rounds sleeps).run (m.holding settings)).result = .ok (some 1) := by
  -- The interval is set first, and no window source looks at it.
  let c := controller simulate
  let set : Machine := { m.holding settings with
    monitor := { (m.holding settings).monitor with interval := settings.interval } }
  obtain ⟨log, hsettings⟩ := m.run_settings_holding settings simulate
  have hprepare : c.prepare.run (m.holding settings) = ⟨.ok (), set, log ++ []⟩ := by
    rw [Controller.prepare, Act.run_bind_eq hsettings]
    rfl
  have hlist : (c.source.list.run set).result = .error (.source text) := by
    rw [← h]
    cases simulate <;> rfl
  have hstart : (c.start.run set).result = .error (.source text) := by
    have hpass : (c.applyToAll.run set).result = .error (.source text) := by
      rw [Controller.applyToAll, Act.run_bind_of_error hlist]
    rw [Controller.start, Act.run_bind_of_error hpass]
  have hlaunch : ((launch simulate).run (m.holding settings)).result = .ok (some 1) := by
    rw [launch, Act.run_bind_eq (run_introduce ..), Act.run_bind_eq hprepare,
      Act.run_bind_eq (Act.run_attempt c.start set), hstart]
    rfl
  rw [proceed, Act.run_bind_of_ok hlaunch]
  rfl

/-! ## Whole runs -/

/-- The rest of a run after its settings are loaded. -/
def rest (m : Machine) (settings : Settings) (simulate : Bool)
    (rounds : List (Act Machine Unit)) (sleeps : Nat) : Outcome Machine (Option Nat) :=
  (atLevel (levelOf settings) (proceed simulate rounds sleeps)).run (m.holding settings)

theorem run_of_ok (hcheck : options.checkOnly = false) (h : m.freshSettings = .ok settings)
    (rounds : List (Act Machine Unit)) (sleeps : Nat) :
    let o := rest m settings options.simulation.isSome rounds sleeps
    ∃ log, (run options rounds sleeps).run m =
      ⟨.ok (levelOf settings, o.result), o.state, log ++ o.log⟩ := by
  intro o
  obtain ⟨_, hload⟩ := run_load_of_ok h
  obtain ⟨loading, hload⟩ := run_runStage .info hload
  obtain ⟨_, hsettings⟩ := m.run_settings_holding settings options.simulation.isSome
  obtain ⟨reading, hsettings⟩ := run_runStage .info hsettings
  have hrest : (runStage (levelOf settings)
      (proceed options.simulation.isSome rounds sleeps)).run (m.holding settings) =
        ⟨.ok o.result, o.state, o.log⟩ := rfl
  rw [run, course, hcheck]
  simp only [Bool.false_eq_true, if_false]
  rw [Act.run_bind_eq hload, Act.run_bind_eq hsettings, Act.run_bind_eq hrest]
  refine ⟨loading ++ reading, ?_⟩
  rw [Act.run_pure, Outcome.after_mk, Outcome.after_mk, Outcome.after_mk, List.append_nil,
    List.append_assoc]

theorem run_of_error {fault : Fault} (hcheck : options.checkOnly = false)
    (h : m.freshSettings = .error fault) (rounds : List (Act Machine Unit)) (sleeps : Nat) :
    ∃ log, (run options rounds sleeps).run m = ⟨.ok (.info, refusal fault), m, log⟩ := by
  obtain ⟨_, hload⟩ := run_load_of_error h
  obtain ⟨_, hload⟩ := run_runStage .info hload
  rw [run, course, hcheck]
  simp only [Bool.false_eq_true, if_false]
  rw [Act.run_bind_eq hload]
  cases hrefusal : Loader.isRefusal fault <;>
    (rw [refusal, hrefusal]; exact ⟨_, rfl⟩)

/-- Whether a run on a machine goes by the settings in its file and by windows that are simulated or
actual. -/
structure GoesBy (m : Machine) (simulate : Bool) (rounds : List (Act Machine Unit)) (sleeps : Nat)
    (o : Outcome Machine (Level × Except Fault (Option Nat))) : Prop where
  /-- Settings that cannot be loaded end it, and change nothing. -/
  refused : ∀ fault, m.freshSettings = .error fault →
    o.result = .ok (.info, refusal fault) ∧ o.state = m
  /-- Otherwise it goes on with these settings in force. -/
  loaded : ∀ settings, m.freshSettings = .ok settings →
    let more := rest m settings simulate rounds sleeps
    o.result = .ok (levelOf settings, more.result) ∧ o.state = more.state ∧ more.log <:+ o.log
  /-- The next thing that it says is where the windows come from. -/
  introduced : ∀ settings, m.freshSettings = .ok settings →
    (rest m settings simulate rounds sleeps).log.head? = some (introduction simulate m)
  /-- If these cannot be listed, that ends it as well. -/
  listed : ∀ settings text, m.freshSettings = .ok settings →
    ((windows simulate).list.run (m.holding settings)).result = .error (.source text) →
    o.result = .ok (levelOf settings, .ok (some 1))

theorem goesBy_run (hcheck : options.checkOnly = false) (m : Machine)
    (rounds : List (Act Machine Unit)) (sleeps : Nat) :
    GoesBy m options.simulation.isSome rounds sleeps ((run options rounds sleeps).run m) where
  refused fault h := by
    obtain ⟨log, hrun⟩ := run_of_error hcheck h rounds sleeps
    rw [hrun]
    exact ⟨rfl, rfl⟩
  loaded settings h := by
    obtain ⟨log, hrun⟩ := run_of_ok hcheck h rounds sleeps
    rw [hrun]
    exact ⟨rfl, rfl, List.suffix_append ..⟩
  introduced settings _ := by
    obtain ⟨more, hlog⟩ := exists_log_proceed_eq_cons options.simulation.isSome rounds sleeps
      (m.holding settings)
    have hkept : (levelOf settings).rank ≤ Level.rank .info := by
      rw [levelOf]
      split <;> decide
    have hrest : (rest m settings options.simulation.isSome rounds sleeps).log =
        ((proceed options.simulation.isSome rounds sleeps).run (m.holding settings)).log.filter
          fun r => (levelOf settings).rank ≤ r.level.rank := rfl
    rw [hrest, hlog, List.filter_cons_of_pos]
    · rfl
    · exact decide_eq_true hkept
  listed settings text h hlist := by
    obtain ⟨log, hrun⟩ := run_of_ok hcheck h rounds sleeps
    have hresult : (rest m settings options.simulation.isSome rounds sleeps).result =
        .ok (some 1) := run_proceed_of_refused hlist rounds sleeps
    rw [hrun, hresult]

end Program

end Translucency
