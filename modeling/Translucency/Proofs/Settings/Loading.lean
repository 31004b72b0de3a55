import Translucency.Proofs.Act
import Translucency.Proofs.Printing
import Translucency.Settings.Loader

/-!
# What loading and reloading do

A settings file gives settings or a fault, whoever reads it and whenever (`Loader.fresh`). Loading
is that reading with its result put in force (`Loader.run_load_of_ok`, `run_load_of_error`), and
reloading is loading where the time of the file is not the remembered one, with refusals turned into
warnings: `Loader.run_reload` gives its result (`verdict`) and the loader after it (`look`) for every
loader and whatever stands at the path.
-/

namespace Translucency

namespace Settings

/-- The unknown keys that are warned about, in the order of the entries: all of them, or those in
front of the first that cannot be printed. -/
def warned (entries : List (Value × Value)) : List Value :=
  ((entries.map Prod.fst).filter (!isKnown ·)).takeWhile (!·.isLong)

/-- The record about an unknown key. -/
def unknownKey (key : Value) : Record :=
  ⟨.warning, .settings, "Ignoring unknown setting '" ++ key.plain ++ "'", none⟩

/-- Whether there is a key that cannot be printed. -/
def HoldsLongKey (entries : List (Value × Value)) : Prop := ∃ e ∈ entries, e.1.isLong = true

instance (entries : List (Value × Value)) : Decidable (HoldsLongKey entries) :=
  inferInstanceAs (Decidable (∃ e ∈ entries, _))

/-- The settings that entries amount to, if there is no key that cannot be printed. -/
def accepted (entries : List (Value × Value)) : Except Fault Settings :=
  if HoldsLongKey entries then .error (.mishap .badText) else ofEntries entries

theorem ofEntries_of_accepted {entries : List (Value × Value)} {s : Settings}
    (h : accepted entries = .ok s) : ofEntries entries = .ok s := by
  unfold accepted at h
  split at h
  · cases h
  · exact h

/-- A key that cannot be printed is no text, so it is unknown. -/
theorem isKnown_of_isLong {key : Value} (h : key.isLong = true) : isKnown key = false := by
  cases key with
  | text s => cases h
  | _ => rfl

theorem run_warnUnknown {σ : Type} (entries : List (Value × Value)) (s : σ) :
    (warnUnknown entries : Act σ Unit).run s =
      ⟨if HoldsLongKey entries then .error (.mishap .badText) else .ok (), s,
        (warned entries).map unknownKey⟩ := by
  unfold warnUnknown
  simp only [List.forM_eq_forM]
  -- Each entry is known, or is warned about, or ends it.
  induction entries with
  | nil => rfl
  | cons e entries ih =>
    have hlong : HoldsLongKey (e :: entries) ↔ e.1.isLong = true ∨ HoldsLongKey entries :=
      List.exists_mem_cons_iff ..
    by_cases hknown : isKnown e.1 = true
    · have hshort : e.1.isLong = false := by
        by_contra hlong
        rw [isKnown_of_isLong (eq_true_of_ne_false hlong)] at hknown
        cases hknown
      simp only [hlong, hshort, warned, List.map_cons, List.filter_cons, hknown, Bool.not_true,
        Bool.false_eq_true, if_false, false_or]
      exact ih
    · rw [List.filter_cons_of_pos (by simpa using hknown), List.forM_cons]
      cases hlabel : e.1.isLong with
      | false =>
        simp only [hlong, hlabel, warned, List.map_cons, List.filter_cons, hknown, Bool.not_false,
          if_true, List.takeWhile_cons, Bool.false_eq_true, false_or]
        have hsaid : (Act.lift e.1.label >>= fun name => Act.log .warning .settings
            ("Ignoring unknown setting '" ++ name ++ "'")).run s =
              ⟨.ok (), s, [unknownKey e.1]⟩ := by
          rw [Value.label_of_not_isLong hlabel]
          rfl
        rw [Act.run_bind_eq hsaid, ih]
        rfl
      | true =>
        simp only [hlong, hlabel, warned, List.map_cons, List.filter_cons, hknown, Bool.not_false,
          if_true, List.takeWhile_cons, Bool.not_true, Bool.false_eq_true, true_or]
        rw [Value.label_of_isLong hlabel]
        rfl

/-- Validating warns about unknown keys, gives the settings that the entries amount to, and changes
nothing. -/
theorem run_validate_warning {σ : Type} (entries : List (Value × Value)) (s : σ) :
    (validate entries : Act σ Settings).run s =
      ⟨accepted entries, s, (warned entries).map unknownKey⟩ := by
  have hwarn := run_warnUnknown entries s
  unfold validate accepted
  by_cases hlong : HoldsLongKey entries
  · rw [if_pos hlong] at hwarn
    rw [Act.run_bind_eq_of_error hwarn, if_pos hlong]
  · rw [if_neg hlong] at hwarn
    rw [Act.run_bind_eq hwarn, if_neg hlong]
    simp

theorem run_validate {σ : Type} (entries : List (Value × Value)) (s : σ) :
    ∃ log, (validate entries : Act σ Settings).run s = ⟨accepted entries, s, log⟩ :=
  ⟨_, run_validate_warning entries s⟩

end Settings

namespace Loader

/-! ## Reading the file -/

/-- The entries that the file at a path gives. -/
def found (path : String) : SettingsFormat → File → Except Fault (List (Value × Value))
  | _, .absent => .error (.missingSettings path)
  | .documents _, .directory _ => .error (.mishap .directory)
  | .documents reader, .file _ content => SettingsFormat.readDocument path reader content
  | .ini _, .directory _ => .ok []
  | .ini script, .file _ content => do
    return (← SettingsFormat.readIni path script content).getD []

/-- The settings that the file at a path gives to whoever reads it. -/
def fresh (path : String) (format : SettingsFormat) (file : File) : Except Fault Settings := do
  Settings.accepted (← found path format file)

/-- The entries come from the file alone; reading them changes nothing. -/
theorem run_entries (file : File) (l : Loader) :
    ∃ log, (entries file).run l = ⟨found l.path l.format file, l, log⟩ := by
  unfold entries
  rw [Act.run_bind_eq (Act.run_read l), Outcome.after_nil]
  -- The log depends on the format and on what stands there; the state never does.
  cases hformat : l.format with
  | documents reader =>
    cases file with
    | absent => exact ⟨_, rfl⟩
    | directory changed => exact ⟨_, rfl⟩
    | file changed content => exact ⟨_, rfl⟩
  | ini script =>
    cases file with
    | absent => exact ⟨_, rfl⟩
    | directory changed => exact ⟨_, rfl⟩
    | file changed content =>
      simp only [found]
      cases hread : SettingsFormat.readIni l.path script content with
      | error fault => exact ⟨_, rfl⟩
      | ok entries =>
        cases entries with
        | none => exact ⟨_, rfl⟩
        | some entries => exact ⟨_, rfl⟩

/-! ## Loading -/

/-- A file that gives settings puts them in force, with its time. -/
theorem run_load_of_ok {file : File} {l : Loader} {settings : Settings}
    (h : fresh l.path l.format file = .ok settings) :
    ∃ log, (load file).run l =
      ⟨.ok (), { l with settings := settings, loaded := file.changed? }, log⟩ := by
  obtain ⟨log, hentries⟩ := run_entries file l
  unfold fresh at h
  cases hfound : found l.path l.format file with
  | error fault => simp [hfound] at h
  | ok entries =>
    rw [hfound, ok_bind] at h
    obtain ⟨log', hvalidate⟩ := Settings.run_validate entries l
    rw [hfound] at hentries
    rw [h] at hvalidate
    rw [load, Act.run_bind_eq hentries, Act.run_bind_eq hvalidate]
    exact ⟨_, rfl⟩

/-- A file that gives no settings leaves the loader as it was. -/
theorem run_load_of_error {file : File} {l : Loader} {fault : Fault}
    (h : fresh l.path l.format file = .error fault) :
    ∃ log, (load file).run l = ⟨.error fault, l, log⟩ := by
  obtain ⟨log, hentries⟩ := run_entries file l
  unfold fresh at h
  cases hfound : found l.path l.format file with
  | error fault' =>
    rw [hfound, error_bind] at h
    cases h
    rw [hfound] at hentries
    exact ⟨log, by rw [load, Act.run_bind_eq_of_error hentries]⟩
  | ok entries =>
    rw [hfound, ok_bind] at h
    obtain ⟨log', hvalidate⟩ := Settings.run_validate entries l
    rw [hfound] at hentries
    rw [h] at hvalidate
    rw [load, Act.run_bind_eq hentries, Act.run_bind_eq_of_error hvalidate]
    exact ⟨_, rfl⟩

/-! ## Reloading -/

/-- Whether a file has another time than the one remembered from the last load. -/
def IsStale (l : Loader) (file : File) : Prop := file.changed? ≠ none ∧ l.loaded ≠ file.changed?

instance (l : Loader) (file : File) : Decidable (l.IsStale file) :=
  inferInstanceAs (Decidable (_ ∧ _))

/-- What a look at the file reports: nothing, or a fault that is no refusal. -/
def verdict (l : Loader) (file : File) : Except Fault Unit :=
  if l.IsStale file then
    match fresh l.path l.format file with
    | .ok _ => .ok ()
    | .error fault => if isRefusal fault then .ok () else .error fault
  else .ok ()

/-- The loader after a look at the file. -/
def look (l : Loader) (file : File) : Loader :=
  if l.IsStale file then
    match fresh l.path l.format file with
    | .ok settings => { l with settings := settings, loaded := file.changed? }
    | .error _ => l
  else l

/-- A look changes the settings in force and the remembered time only. -/
theorem path_look (l : Loader) (file : File) : (l.look file).path = l.path := by
  unfold look
  split
  · split <;> rfl
  · rfl

/-- A second look at the same file reports the same and finds nothing to do: what was loaded is not
stale any more, and what was refused is refused again. -/
theorem look_look (l : Loader) (file : File) :
    (l.look file).look file = l.look file ∧
      (l.verdict file = .ok () → (l.look file).verdict file = .ok ()) := by
  by_cases hstale : l.IsStale file
  · cases hfresh : fresh l.path l.format file with
    | ok settings =>
      have hlook : l.look file = { l with settings := settings, loaded := file.changed? } := by
        rw [look, if_pos hstale, hfresh]
      -- What was loaded has the remembered time, so the second look does not read it.
      have hnext : ¬ (l.look file).IsStale file := by
        rw [hlook]
        exact fun h => h.2 rfl
      exact ⟨by rw [look, if_neg hnext], fun _ => by rw [verdict, if_neg hnext]⟩
    | error fault =>
      have hlook : l.look file = l := by rw [look, if_pos hstale, hfresh]
      rw [hlook]
      exact ⟨hlook, id⟩
  · have hlook : l.look file = l := by rw [look, if_neg hstale]
    rw [hlook]
    exact ⟨hlook, id⟩

/-- Whether a warning about the settings is among records. -/
def Warns (log : List Record) : Prop :=
  ∃ record ∈ log, record.level = .warning ∧ record.channel = .settings

/-- **What reloading does**, for every loader and whatever stands at the path. A file that is gone
or refused leaves a warning. -/
theorem run_reload (file : File) (l : Loader) :
    ∃ log, (reload file).run l = ⟨l.verdict file, l.look file, log⟩ ∧
      (file = .absent → Warns log) ∧
      (∀ fault, l.IsStale file → fresh l.path l.format file = .error fault →
        isRefusal fault = true → Warns log) := by
  rw [reload, Act.run_bind_eq (Act.run_read l), Outcome.after_nil]
  cases hchanged : file.changed? with
  | none =>
    -- Nothing is there.
    have hstale : ¬ l.IsStale file := fun h => h.1 hchanged
    rw [verdict, look, if_neg hstale, if_neg hstale]
    exact ⟨_, rfl, fun _ => ⟨_, List.mem_singleton_self _, rfl, rfl⟩, fun _ h => absurd h hstale⟩
  | some changed =>
    have habsent : file ≠ .absent := by
      rintro rfl
      cases hchanged
    by_cases hloaded : l.loaded = some changed
    · -- It has the remembered time.
      have hstale : ¬ l.IsStale file := fun h => h.2 (hchanged ▸ hloaded)
      rw [verdict, look, if_neg hstale, if_neg hstale]
      simp only [if_pos hloaded]
      exact ⟨_, rfl, fun h => absurd h habsent, fun _ h => absurd h hstale⟩
    · -- It is another one: it is loaded, and a refusal is turned into a warning.
      have hstale : l.IsStale file := ⟨by simp [hchanged], by rwa [hchanged]⟩
      rw [verdict, look, if_pos hstale, if_pos hstale]
      simp only [if_neg hloaded]
      cases hfresh : fresh l.path l.format file with
      | ok settings =>
        obtain ⟨log, hload⟩ := run_load_of_ok hfresh
        rw [Act.run_bind_eq (Act.run_attempt_eq hload)]
        exact ⟨_, rfl, fun h => absurd h habsent, fun _ _ h => by cases h⟩
      | error fault =>
        obtain ⟨log, hload⟩ := run_load_of_error hfresh
        rw [Act.run_bind_eq (Act.run_attempt_eq hload)]
        simp only
        cases hrefusal : isRefusal fault with
        | true =>
          refine ⟨_, rfl, fun h => absurd h habsent, fun _ _ _ _ => ?_⟩
          exact ⟨_, List.mem_append_right _ (List.mem_singleton_self _), rfl, rfl⟩
        | false =>
          refine ⟨_, rfl, fun h => absurd h habsent, fun fault' _ h h' => ?_⟩
          cases h
          rw [hrefusal] at h'
          cases h'

/-! ## Reading a setting -/

/-- Reading the settings is a look at the file, and then the settings in force. -/
theorem run_current {file : File} {l : Loader} {log : List Record}
    (h : (reload file).run l = ⟨l.verdict file, l.look file, log⟩) :
    (current file).run l =
      ⟨(l.verdict file).map fun _ => (l.look file).settings, l.look file, log⟩ := by
  unfold current
  cases hverdict : l.verdict file with
  | error fault => rw [Act.run_bind_eq_of_error (by rw [h, hverdict]), Except.map]
  | ok _ =>
    rw [Act.run_bind_eq (by rw [h, hverdict]), Act.run_bind_eq (Act.run_read _)]
    simp [Except.map]

/-- The value under a key in the settings in force, or a default for a key of no setting. -/
def value (l : Loader) (key : String) (default : Value) : Value :=
  match Setting.ofKey? key with
  | some setting => l.settings.get setting
  | none => default

/-- Reading one setting is a look at the file, and then the value in force. -/
theorem run_lookup {file : File} {l : Loader} {log : List Record} (key : String) (default : Value)
    (h : (reload file).run l = ⟨l.verdict file, l.look file, log⟩) :
    (lookup file key default).run l =
      ⟨(l.verdict file).map fun _ => (l.look file).value key default, l.look file, log⟩ := by
  have hcurrent := run_current h
  unfold lookup
  cases hverdict : l.verdict file with
  | error fault =>
    rw [hverdict] at hcurrent
    rw [Act.run_bind_eq_of_error hcurrent, Except.map]
  | ok _ =>
    rw [hverdict] at hcurrent
    rw [Act.run_bind_eq hcurrent]
    simp only [Except.map, value]
    cases Setting.ofKey? key <;> simp

end Loader

end Translucency
