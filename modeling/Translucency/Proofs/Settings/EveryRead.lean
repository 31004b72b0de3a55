import Translucency.Proofs.Settings.Requests
import Translucency.Yaml.Settings

/-!
# What the remembered time saves

A loader remembers the time of the file that it loaded last, and does not load a file with that time
again. That is meant to save work and to change nothing else, and `Site.agrees_with_always` says
so: where the time tells the file that was loaded from others, the loader has the same settings,
gives the same values and fails with the same faults as one that loads the file at every request.

The time is remembered together with the settings, so it never stands for a file that was refused. A
file that is repaired is read at the next request, however often it was refused before and even if
its time did not change.
-/

namespace Translucency.Loader

/-! ## Loading at every request -/

/-- Loads the file, whatever its time. The settings stay as they were if that is refused. -/
def loadKeeping (file : File) : Act Loader Unit := do
  match ← (load file).attempt with
  | .ok () => return
  | .error fault => if isRefusal fault then return else .fail fault

/-- What a request does if every request loads the file. -/
def Request.actAlways (file : File) : Request → Act Loader (Option Value)
  | .load => do Loader.load file; return none
  | .reload => do loadKeeping file; return none
  | .read key default => do
    loadKeeping file
    return some ((← .read).value key default)

/-- Nothing to be loaded is a refusal for every format. -/
theorem fresh_absent (path : String) (format : SettingsFormat) :
    fresh path format .absent = .error (.missingSettings path) := by
  cases format <;> rfl

theorem run_loadKeeping_of_ok {file : File} {l : Loader} {settings : Settings}
    (h : fresh l.path l.format file = .ok settings) :
    ∃ log, (loadKeeping file).run l =
      ⟨.ok (), { l with settings := settings, loaded := file.changed? }, log⟩ := by
  obtain ⟨log, hload⟩ := run_load_of_ok h
  rw [loadKeeping, Act.run_bind_eq (Act.run_attempt_eq hload)]
  exact ⟨_, rfl⟩

theorem run_loadKeeping_of_error {file : File} {l : Loader} {fault : Fault}
    (h : fresh l.path l.format file = .error fault) :
    ∃ log, (loadKeeping file).run l =
      ⟨if isRefusal fault then .ok () else .error fault, l, log⟩ := by
  obtain ⟨log, hload⟩ := run_load_of_error h
  rw [loadKeeping, Act.run_bind_eq (Act.run_attempt_eq hload)]
  simp only
  cases isRefusal fault with
  | true => exact ⟨_, rfl⟩
  | false => exact ⟨_, rfl⟩

/-- A file that is absent, or that the loader has just as it stands, can be loaded once more without
any effect. -/
def IsSpare (l : Loader) (file : File) : Prop :=
  file = .absent ∨ ∃ settings, fresh l.path l.format file = .ok settings ∧
    l = { l with settings := settings, loaded := file.changed? }

/-- Where a file that is not stale can be spared, a look does what loading it does. -/
theorem run_loadKeeping {l : Loader} {file : File}
    (hspare : ¬ l.IsStale file → l.IsSpare file) :
    ∃ log, (loadKeeping file).run l = ⟨l.verdict file, l.look file, log⟩ := by
  by_cases hstale : l.IsStale file
  · rw [verdict, look, if_pos hstale, if_pos hstale]
    cases hfresh : fresh l.path l.format file with
    | ok settings => exact run_loadKeeping_of_ok hfresh
    | error fault => exact run_loadKeeping_of_error hfresh
  · rw [verdict, look, if_neg hstale, if_neg hstale]
    obtain rfl | ⟨settings, hfresh, hsame⟩ := hspare hstale
    · exact run_loadKeeping_of_error (fresh_absent l.path l.format)
    · rw [hsame]
      exact run_loadKeeping_of_ok hfresh

/-- So does a request of any kind. -/
theorem Request.actAlways_eq {l : Loader} {file : File}
    (hspare : ¬ l.IsStale file → l.IsSpare file) (request : Request) :
    ((request.actAlways file).run l).result = ((request.act file).run l).result ∧
      ((request.actAlways file).run l).state = ((request.act file).run l).state := by
  obtain ⟨log, hkeeping⟩ := run_loadKeeping hspare
  obtain ⟨log', hreload, -⟩ := run_reload file l
  cases request with
  | load =>
    -- A load takes no account of the time in either case.
    exact ⟨rfl, rfl⟩
  | reload =>
    simp only [actAlways, act, bind_pure_comp, Act.run_map, hkeeping, hreload, and_self]
  | read key default =>
    simp only [actAlways, act, bind_pure_comp, Act.run_map, run_lookup key default hreload]
    cases hverdict : l.verdict file with
    | ok _ =>
      rw [hverdict] at hkeeping
      rw [Act.run_bind_eq hkeeping]
      exact ⟨rfl, rfl⟩
    | error fault =>
      rw [hverdict] at hkeeping
      rw [Act.run_bind_eq_of_error hkeeping]
      exact ⟨rfl, rfl⟩

/-- After a look a file that can be loaded is in force, whether it had to be loaded or not. -/
theorem look_of_ok {l : Loader} {file : File} (hspare : ¬ l.IsStale file → l.IsSpare file)
    {settings : Settings} (hfresh : fresh l.path l.format file = .ok settings) :
    l.verdict file = .ok () ∧
      l.look file = { l with settings := settings, loaded := file.changed? } := by
  obtain ⟨log, hlook⟩ := run_loadKeeping hspare
  obtain ⟨log', hload⟩ := run_loadKeeping_of_ok hfresh
  rw [hlook] at hload
  injection hload with hverdict hlook
  exact ⟨hverdict, hlook⟩

namespace Site

/-! ## Histories -/

def stepAlways (s : Site) : Move → Site
  | .place file => { s with file }
  | .ask request => { s with loader := ((request.actAlways s.file).run s.loader).state }

variable (path : String) (format : SettingsFormat) (file : File)

/-- A new loader that loads at every request, and what stands at its path, after moves. -/
def afterAlways : List Move → Site
  | [] => { loader := new path format, file }
  | move :: past => (afterAlways past).stepAlways move

/-- Whether, at every moment of a history, a file with the time of the one that was loaded last is
that one. -/
def TimesTell : List Move → Prop
  | [] => True
  | move :: past =>
    TimesTell past ∧ ∀ loaded, lastLoad path format file (move :: past) = some loaded →
      (after path format file (move :: past)).file.changed? = loaded.changed? →
        (after path format file (move :: past)).file = loaded

variable {path format file}

/-- Where times tell, they do so at the end. -/
theorem TimesTell.now {moves : List Move} (h : TimesTell path format file moves) {loaded : File}
    (hloaded : lastLoad path format file moves = some loaded)
    (htime : (after path format file moves).file.changed? = loaded.changed?) :
    (after path format file moves).file = loaded := by
  cases moves with
  | nil => cases hloaded
  | cons move past => exact h.2 loaded hloaded htime

/-- A request never confuses times: the file stays, and it is the only one that may be loaded. -/
theorem TimesTell.ask {moves : List Move} (h : TimesTell path format file moves)
    (request : Request) : TimesTell path format file (.ask request :: moves) := by
  refine ⟨h, fun loaded hloaded htime => ?_⟩
  rw [lastLoad] at hloaded
  split at hloaded
  · exact Option.some.inj hloaded
  · exact h.now hloaded htime

/-- Nor does a file with another time than the one that was loaded last. -/
theorem TimesTell.place {moves : List Move} (h : TimesTell path format file moves) {f loaded : File}
    (hloaded : lastLoad path format file moves = some loaded) (htime : f.changed? ≠ loaded.changed?) :
    TimesTell path format file (.place f :: moves) := by
  refine ⟨h, fun loaded' hloaded' htime' => absurd htime' ?_⟩
  rw [lastLoad, hloaded] at hloaded'
  cases hloaded'
  exact htime

/-- Where times tell, a file that is not stale is the one that was loaded last, or there is none. -/
theorem TimesTell.isSpare {moves : List Move} (h : TimesTell path format file moves)
    (hstale : ¬ (after path format file moves).loader.IsStale (after path format file moves).file) :
    (after path format file moves).loader.IsSpare (after path format file moves).file := by
  have hfollows : Follows path format (after path format file moves).loader
      (lastLoad path format file moves) := follows_after moves
  have hsame := @h.now
  generalize after path format file moves = s at hstale hfollows hsame ⊢
  generalize lastLoad path format file moves = last at hfollows hsame
  by_cases habsent : s.file.changed? = none
  · refine .inl ?_
    cases hfile : s.file with
    | absent => rfl
    | directory changed => simp [hfile, File.changed?] at habsent
    | file changed content => simp [hfile, File.changed?] at habsent
  · -- Its time is the remembered one, so something was loaded, and that had the same time.
    have hloaded : s.loader.loaded = s.file.changed? :=
      Decidable.byContradiction fun hother => hstale ⟨habsent, hother⟩
    obtain ⟨-, hl⟩ | ⟨loaded, settings, hlast, hfresh, hl⟩ := hfollows.cases_last
    · rw [hl] at hloaded
      exact absurd hloaded.symm habsent
    · have hfile : s.file = loaded := by
        refine hsame hlast ?_
        rw [← hloaded, hl]
      rw [hfile, hl]
      exact .inr ⟨settings, hfresh, rfl⟩

/-- Where times tell, loading at every request makes no difference to the loader. -/
theorem afterAlways_eq {moves : List Move} (h : TimesTell path format file moves) :
    afterAlways path format file moves = after path format file moves := by
  induction moves with
  | nil => rfl
  | cons move past ih =>
    rw [afterAlways, after, ih h.1]
    cases move with
    | place f => rfl
    | ask request =>
      have hstate := (request.actAlways_eq h.1.isSpare).2
      simp only [stepAlways, step, hstate]

/-- **The remembered time only saves work.** At every moment of every history in which a file with
the time of the one that was loaded last is that one, the settings are those of a loader that loads
the file at every request, and the next request has the same result and leaves the same settings. So
a file that can be loaded then is what the next reading goes by, whatever happened before. -/
theorem agrees_with_always (path : String) (format : SettingsFormat) (file : File)
    (moves : List Move) (htell : TimesTell path format file moves) :
    let s := after path format file moves
    let t := afterAlways path format file moves
    t.loader.settings = s.loader.settings ∧
    (∀ request : Request,
      let always := (request.actAlways t.file).run t.loader
      let asked := (request.act s.file).run s.loader
      always.result = asked.result ∧ always.state.settings = asked.state.settings) ∧
    (((load s.file).run s.loader).result = .ok () → ∀ (setting : Setting) (default : Value),
      ((lookup s.file setting.key default).run s.loader).result =
        .ok (((load s.file).run s.loader).state.settings.get setting)) := by
  intro s t
  have hts : t = s := afterAlways_eq htell
  have hspare : ¬ s.loader.IsStale s.file → s.loader.IsSpare s.file := htell.isSpare
  rw [hts]
  refine ⟨rfl, fun request => ?_, fun hload setting default => ?_⟩
  · obtain ⟨hresult, hstate⟩ := request.actAlways_eq hspare
    exact ⟨hresult, congrArg Loader.settings hstate⟩
  · have hok : ((load s.file).run s.loader).result.isOk = true := by
      rw [hload]
      rfl
    obtain ⟨settings, hfresh⟩ := isOk_load_iff.1 hok
    obtain ⟨hverdict, hlook⟩ := look_of_ok hspare hfresh
    obtain ⟨log, hreload, -⟩ := run_reload s.file s.loader
    rw [run_lookup _ default hreload, state_load_of_ok hfresh, hverdict, hlook, value_key]
    rfl

/-- A file was loaded and is replaced by one that is refused, at a reading and at a reload. Then it
is repaired, and its time stays that of the refused one. The settings are still the old ones, and
the next reading gives the new one. -/
theorem agrees_with_always_of_repaired :
    let percentage (changed : Int) (text : String) : File :=
      File.ofText changed
        ("window_opacity:\n  settings:\n    windowOpacityPercentage: " ++ text ++ "\n")
    let first := percentage 500 "80"
    let refused : List Move := [.ask .reload, .ask (.read "windowOpacityPercentage" .null),
      .place (percentage 1000 "high"), .ask .load]
    let s := after "settings" .document first (.place (percentage 1000 "50") :: refused)
    s.loader.settings = { opacity := .whole 80 } ∧
      ((lookup s.file "windowOpacityPercentage" .null).run s.loader).result = .ok (.int 50) := by
  intro percentage first refused s
  have hfirst : fresh "settings" .document first = .ok { opacity := .whole 80 } :=
    eq_ok_of_toOption (by decide +kernel)
  have hrepaired : fresh "settings" .document (percentage 1000 "50") =
      .ok { opacity := .whole 50 } := eq_ok_of_toOption (by decide +kernel)
  obtain ⟨fault, hrefused⟩ : ∃ fault, fresh "settings" .document (percentage 1000 "high") =
      .error fault := exists_eq_error_of_toOption (by decide +kernel)
  -- Only the first file is ever loaded, so its time is the only one that is asked about.
  have hload : lastLoad "settings" .document first [.ask .load] = some first :=
    lastLoad_load_of_ok hfirst rfl
  have hlast : lastLoad "settings" .document first refused = some first := by
    refine (lastLoad_ask_of_error hrefused rfl .reload).trans ?_
    refine (lastLoad_ask_of_error hrefused rfl (.read "windowOpacityPercentage" .null)).trans ?_
    exact hload
  have htimes : (some 1000 : Option Int) ≠ some 500 := by decide
  have htell : TimesTell "settings" .document first
      (.place (percentage 1000 "50") :: refused) := by
    refine TimesTell.place ?_ hlast htimes
    refine TimesTell.ask (TimesTell.ask ?_ _) _
    refine TimesTell.place ?_ hload htimes
    exact TimesTell.ask (show TimesTell _ _ _ [] from trivial) .load
  have hloader : s.loader = ⟨"settings", .document, { opacity := .whole 80 }, some 500⟩ := by
    have hfollows : Follows "settings" .document s.loader (some first) := hlast ▸ follows_after _
    obtain ⟨hnone, -⟩ | ⟨f, settings, hsome, hsettings, hl⟩ := hfollows.cases_last
    · cases hnone
    · cases hsome
      rw [hfirst] at hsettings
      cases hsettings
      exact hl
  have hnow : fresh s.loader.path s.loader.format s.file = .ok { opacity := .whole 50 } := by
    rw [hloader]
    exact hrepaired
  have hrepair : ((load s.file).run s.loader).result = .ok () := by
    rw [result_load, hnow]
    rfl
  obtain ⟨-, -, hread⟩ := agrees_with_always "settings" .document first
    (.place (percentage 1000 "50") :: refused) htell
  refine ⟨by rw [hloader], (hread hrepair .opacity .null).trans ?_⟩
  rw [state_load_of_ok hnow]
  rfl

end Site

end Translucency.Loader
