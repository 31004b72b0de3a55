import Translucency.Proofs.Settings.Mishaps
import Translucency.Yaml.Settings

/-!
# Reading settings at the moment of an event

Settings are read anew at every event, from a file that anybody may have changed in the meantime. A
reading is meant never to stop the event: what cannot be loaded is warned about, and the settings in
force stay. This holds of refusals and of missing files. It does not hold of what `Breaks` lists,
which goes through to whoever asked, and `Loader.reads_iff_not_breaks` says that these are all the
exceptions, whatever reads the documents. The settings in force stay in any case.
-/

namespace Translucency.Loader

/-- A look at the file succeeds unless the file is another one than the one loaded and breaks the
reading. -/
theorem verdict_eq_error_iff (l : Loader) (file : File) (fault : Fault) :
    l.verdict file = .error fault ↔ l.IsStale file ∧ Breaks l.path l.format file fault := by
  unfold verdict
  by_cases hstale : l.IsStale file
  · rw [if_pos hstale, ← fresh_eq_error_iff, and_iff_right hstale]
    cases hfresh : fresh l.path l.format file with
    | ok settings => exact iff_of_false (by simp) (by simp)
    | error fault' =>
      simp only
      cases hrefusal : isRefusal fault' with
      | true =>
        -- A refusal is no fault of the look.
        refine iff_of_false (by simp) ?_
        rintro ⟨⟨⟩, hnot⟩
        rw [hrefusal] at hnot
        cases hnot
      | false =>
        rw [if_neg (by simp)]
        constructor
        · rintro ⟨⟩
          exact ⟨rfl, hrefusal⟩
        · rintro ⟨⟨⟩, -⟩
          rfl
  · rw [if_neg hstale]
    exact iff_of_false (by simp) fun h => hstale h.1

/-- A look at a file that gives no settings leaves the loader as it was. -/
theorem look_of_error {l : Loader} {file : File} {fault : Fault}
    (h : fresh l.path l.format file = .error fault) : l.look file = l := by
  unfold look
  split
  · rw [h]
  · rfl

/-- **When a reading at event time returns.** For every loader and whatever stands at the path, a
reload and the reading of a setting return exactly if the file does not break them: it has the time
of the last load, or it is gone, or it gives settings, or these are refused. What goes through is
the fault of the file. In all cases a file that gives no settings leaves the loader as it was, and
one that is gone or refused leaves a warning. -/
theorem reads_iff_not_breaks (l : Loader) (file : File) (key : String) (default : Value) :
    let reloaded := (reload file).run l
    let read := (lookup file key default).run l
    let broken := l.IsStale file ∧ ∃ fault, Breaks l.path l.format file fault
    ((reloaded.result = .ok () ↔ ¬ broken) ∧
      (read.result = .ok ((l.look file).value key default) ↔ ¬ broken)) ∧
    (broken → ∃ fault, Breaks l.path l.format file fault ∧ reloaded.result = .error fault ∧
      read.result = .error fault) ∧
    (∀ fault, fresh l.path l.format file = .error fault → reloaded.state = l ∧ read.state = l ∧
      (file = .absent ∨ l.IsStale file ∧ isRefusal fault = true →
        Warns reloaded.log ∧ Warns read.log)) := by
  intro reloaded read broken
  obtain ⟨log, hreload, habsent, hrefused⟩ := run_reload file l
  have hreloaded : reloaded = ⟨l.verdict file, l.look file, log⟩ := hreload
  have hread : read = ⟨(l.verdict file).map fun _ => (l.look file).value key default,
      l.look file, log⟩ := run_lookup key default hreload
  -- What the verdict lets through is what breaks the reading, and nothing else.
  have hbroken : broken ↔ ∃ fault, l.verdict file = .error fault := by
    simp only [verdict_eq_error_iff, exists_and_left]
    exact Iff.rfl
  rw [hreloaded, hread]
  refine ⟨?_, ?_, ?_⟩
  · rw [hbroken]
    cases hverdict : l.verdict file with
    | ok _ => simp [Except.map]
    | error fault => simp [Except.map]
  · intro h
    obtain ⟨fault, hverdict⟩ := hbroken.1 h
    obtain ⟨-, hbreaks⟩ := (verdict_eq_error_iff l file fault).1 hverdict
    refine ⟨fault, hbreaks, hverdict, ?_⟩
    simp only [hverdict, Except.map]
  · intro fault hfresh
    refine ⟨look_of_error hfresh, look_of_error hfresh, fun h => ?_⟩
    -- One log serves both readings, so one warning does.
    have hwarns : Warns log := by
      obtain h | ⟨hstale, hrefusal⟩ := h
      · exact habsent h
      · exact hrefused fault hstale hfresh hrefusal
    exact ⟨hwarns, hwarns⟩

/-- A new loader meets a document of one byte that is not UTF-8, and the reading does not return. -/
theorem not_reads_undecodable :
    let l : Loader := { path := "settings", format := .document }
    let file : File := .file 1000 ⟨#[0xff]⟩
    ((reload file).run l).result = .error (.mishap .undecodable) ∧
      ((lookup file "excludedWindows" .null).run l).result = .error (.mishap .undecodable) := by
  intro l file
  have hstopped : Yaml.reader ⟨#[0xff]⟩ = .error (.stopped (.mishap .undecodable)) := by
    have hnone : (ByteArray.mk #[0xff]).utf8Decode? = none := by decide
    unfold Yaml.reader File.decode
    rw [hnone]
  have hverdict : l.verdict file = .error (.mishap .undecodable) :=
    (verdict_eq_error_iff l file _).2 ⟨by decide, .stopped hstopped rfl⟩
  obtain ⟨log, hreload, -⟩ := run_reload file l
  rw [run_lookup _ _ hreload, hreload, hverdict]
  exact ⟨rfl, rfl⟩

end Translucency.Loader
