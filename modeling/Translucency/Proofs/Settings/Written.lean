import Translucency.Proofs.Ini.Sections
import Translucency.Proofs.Number.Numerals
import Translucency.Proofs.Settings.Acceptance

/-!
# Settings that the desktop wrote

The desktop writes four of the settings into the section of a script, each on a line of its own, and
other scripts and programs have sections in the same file. The settings are read back as they were
written, whatever stands in the exclusion list, in whatever order the lines are and whatever the
other sections hold, as long as each of their lines has a name (`Loader.run_load_of_isNamed`).
One line of the file that starts with a delimiter, in whichever section, has it refused as a whole
(`Loader.run_load_of_not_isNamed`).
-/

namespace Translucency

open Ini (Section IsOneLine IsEntry IsTidy IsTextOf unnamed)

/-! ## What is written -/

/-- The settings that the desktop writes: all but the poll interval. -/
structure Written where
  exclusions : String
  opacity : Int
  showNames : Bool
  showDebug : Bool

namespace Written

/-- The entries of the section. -/
def entries (w : Written) : List (String × String) := [
  ("excludedWindows", w.exclusions),
  ("windowOpacityPercentage", toString w.opacity),
  ("showNewWindowNames", toString w.showNames),
  ("showDebugLogs", toString w.showDebug)]

/-- The settings that are meant. The poll interval is the default one. -/
def settings (w : Written) : Settings where
  opacity := .whole w.opacity
  exclusions := w.exclusions
  showNames := w.showNames
  showDebug := w.showDebug

/-- Whether the exclusions can stand on a line and the opacity is a number that settings may
have. -/
structure IsWritable (w : Written) : Prop where
  trimmed : Text.trimmed w.exclusions = w.exclusions
  isOneLine : IsOneLine w.exclusions
  isFinite : (Binary64.ofInt w.opacity).isFinite = true

variable {w : Written}

/-! ## Lines -/

theorem isEntry_and_isTidy (hw : w.IsWritable) {e : String × String} (he : e ∈ w.entries) :
    IsEntry e ∧ IsTidy e := by
  have hflag : ∀ b : Bool, IsOneLine (toString b) ∧ Text.trimmed (toString b) = toString b := by
    decide
  have hblank : ∀ c ∈ (toString w.opacity).toList, Text.isBlank c = false := by
    intro c hc
    obtain hdigit | rfl := Numeral.of_mem_toString_int hc
    · exact Numeral.isBlank_of_isDigit hdigit
    · rfl
  have hnumber : IsOneLine (toString w.opacity) ∧
      Text.trimmed (toString w.opacity) = toString w.opacity := by
    refine ⟨⟨fun h => ?_, fun h => ?_⟩, ?_⟩
    · cases hblank _ h
    · cases hblank _ h
    · rw [Text.trimmed, Text.trim_of_ends, String.ofList_toList]
      · exact fun c hc => hblank c (List.mem_of_mem_head? hc)
      · exact fun c hc => hblank c (List.mem_of_getLast? hc)
  have hkeys : ∀ key ∈ w.entries.map (·.1), key.toList.head?.any Ini.startsEntry = true ∧
      IsOneLine key ∧ key.toList.any Ini.isDelimiter = false ∧ Text.trimmed key = key := by
    rw [show w.entries.map (·.1) = ["excludedWindows", "windowOpacityPercentage",
      "showNewWindowNames", "showDebugLogs"] from rfl]
    decide
  have hvalues : ∀ e ∈ w.entries, IsOneLine e.2 ∧ Text.trimmed e.2 = e.2 := by
    simp only [entries, List.forall_mem_cons]
    exact ⟨⟨hw.isOneLine, hw.trimmed⟩, hnumber, hflag w.showNames, hflag w.showDebug,
      fun _ h => nomatch h⟩
  obtain ⟨hhead, hkey, hdelimiter, htrimmed⟩ := hkeys e.1 (List.mem_map_of_mem he)
  obtain ⟨hvalue, htrimmed'⟩ := hvalues e he
  exact ⟨⟨hhead, hkey, hvalue⟩, hdelimiter, htrimmed, htrimmed'⟩

end Written

namespace SettingsFormat

/-! ## Conversion -/

theorem convertFlag_toString (key : String) (b : Bool) :
    convertFlag key (toString b) = .ok (.bool b) := by
  cases b with
  | false =>
    have hword : Text.lowered (Text.trimmed (toString false)) = "false" := by decide +kernel
    simp only [convertFlag, hword]
    rfl
  | true =>
    have hword : Text.lowered (Text.trimmed (toString true)) = "true" := by decide +kernel
    simp only [convertFlag, hword]
    rfl

theorem convertNumber_toString (key : String) {n : Int} (h : Numeral.isShort n = true) :
    convertNumber key (toString n) = .ok (.int n) := by
  have hpoint : (toString n).toList.contains '.' = false := by
    rw [List.contains_eq_mem, decide_eq_false_iff_not]
    intro hmem
    obtain hdigit | hminus := Numeral.of_mem_toString_int hmem <;> cases ‹_›
  simp only [convertNumber, hpoint, Numeral.integer?_toString_int, if_pos h]
  rfl

/-- Every entry that was written is converted to the setting that was meant. -/
theorem convert_of_mem_entries {w : Written} (hw : w.IsWritable) {e : String × String}
    (he : e ∈ w.entries) :
    ∃ setting : Setting, e.1 = setting.key ∧
      convert e.1 e.2 = .ok (w.settings.get setting) := by
  have hflag (setting : Setting) (h : setting = .showNames ∨ setting = .showDebug) (b : Bool) :
      convert setting.key (toString b) = .ok (.bool b) := by
    rw [convert, Settings.ofKey?_key]
    obtain rfl | rfl := h <;> exact convertFlag_toString _ b
  simp only [Written.entries, List.mem_cons, List.not_mem_nil, or_false] at he
  obtain rfl | rfl | rfl | rfl := he
  · refine ⟨.exclusions, rfl, ?_⟩
    rw [show "excludedWindows" = Setting.exclusions.key from rfl, convert, Settings.ofKey?_key]
    rfl
  · refine ⟨.opacity, rfl, ?_⟩
    rw [show "windowOpacityPercentage" = Setting.opacity.key from rfl, convert, Settings.ofKey?_key]
    exact convertNumber_toString _ (Numeral.isShort_of_isFinite hw.isFinite)
  · exact ⟨.showNames, rfl, hflag .showNames (.inl rfl) w.showNames⟩
  · exact ⟨.showDebug, rfl, hflag .showDebug (.inr rfl) w.showDebug⟩

/-- The entries that were written are converted to entries of the settings that were meant. -/
theorem exists_mapM_convert {w : Written} (hw : w.IsWritable) {es : List (String × String)}
    (hes : es ⊆ w.entries) :
    ∃ entries, (es.mapM fun e => return (Value.text e.1, ← convert e.1 e.2)) = .ok entries ∧
      entries ⊆ w.settings.entries ∧ entries.map (·.1) = es.map (.text ·.1) := by
  induction es with
  | nil => exact ⟨[], rfl, List.nil_subset _, rfl⟩
  | cons e es ih =>
    obtain ⟨he, hes⟩ := List.cons_subset.1 hes
    obtain ⟨entries, hread, hsub, hkeys⟩ := ih hes
    obtain ⟨setting, hkey, hconvert⟩ := convert_of_mem_entries hw he
    have hmem : (Value.text setting.key, w.settings.get setting) ∈ w.settings.entries :=
      List.mem_map_of_mem (by cases setting <;> decide)
    refine ⟨(.text e.1, w.settings.get setting) :: entries, ?_, ?_, ?_⟩
    · rw [List.mapM_cons, hconvert, hread]
      rfl
    · exact List.cons_subset.2 ⟨hkey ▸ hmem, hsub⟩
    · rw [List.map_cons, hkeys, List.map_cons]

/-! ## Sections -/

/-- The sections in a text are those in its lines. -/
theorem readSections_toUTF8 (path : String) {text : String} (hreturn : '\r' ∉ text.toList) :
    readSections path text.toUTF8 =
      (Ini.read (Text.rawLines text.toList)).mapError fun fault =>
        .settings (.badIni path fault) := by
  have hdecode : File.decode text.toUTF8 = .ok text.toList := by
    rw [File.decode_toUTF8, Text.unifyBreaks_of_not_mem hreturn]
  simp only [readSections, File.lines_of_decode hdecode]
  cases Ini.read (Text.rawLines text.toList) with
  | ok sections => rfl
  | error fault => cases fault <;> rfl

end SettingsFormat

namespace Written

variable {w : Written}

theorem isValid_settings (hw : w.IsWritable) : w.settings.IsValid := by
  refine ⟨hw.isFinite, ?_⟩
  -- The field is projected first, or the number is computed to compare it.
  dsimp only [settings]
  exact Settings.isInterval_default

/-- Entries with the keys that are written leave out only the poll interval, which is at its
default. -/
theorem get_settings_of_not_mem {es : List (String × String)} (hes : es.Perm w.entries)
    {setting : Setting} (hmissing : Value.text setting.key ∉ es.map (.text ·.1)) :
    w.settings.get setting = ({} : Settings).get setting := by
  have hkeys : setting.key ∉ w.entries.map (·.1) := by
    intro hmem
    obtain ⟨e, he, hkey⟩ := List.mem_map.1 hmem
    exact hmissing (List.mem_map.2 ⟨e, hes.mem_iff.2 he, congrArg Value.text hkey⟩)
  cases setting with
  | interval => rfl
  | _ => exact absurd (by simp [entries, Setting.key]) hkeys

end Written

/-! ## Loading -/

namespace Loader

variable {l : Loader} {script text : String}

/-- The entries that a text gives are those of the section, if it is there. -/
theorem run_entries_ofText (hformat : l.format = .ini script)
    {r : Except Fault (Option (List (Value × Value)))}
    (hread : SettingsFormat.readIni l.path script text.toUTF8 = r) (hr : r ≠ .ok none)
    (changed : Int) :
    (entries (.ofText changed text)).run l = ⟨r.map (·.getD []), l, []⟩ := by
  unfold entries
  rw [Act.run_bind_eq (Act.run_read l), Outcome.after_nil, hformat, File.ofText]
  simp only [hread]
  cases r with
  | error fault => rfl
  | ok found =>
    cases found with
    | none => exact absurd rfl hr
    | some entries => rfl

end Loader

/-! ## Files -/

/-- Whether settings that the desktop wrote are those in the section of a script, which stands in
its file among other sections. -/
structure Written.IsIn (w : Written) (script : String) (before : List Section) (own : Section)
    (after : List Section) : Prop where
  isWritable : w.IsWritable
  isOneLine : IsOneLine script
  name : own.name = SettingsFormat.sectionName script
  entries : own.entries.Perm w.entries
  isPlain : ∀ s ∈ before ++ after, s.IsPlain
  others : ∀ s ∈ before ++ after, s.name ≠ own.name ∧ s.name ≠ Ini.commonSection

namespace Written.IsIn

variable {w : Written} {script : String} {before after : List Section} {own : Section}

theorem isPlain_own (h : w.IsIn script before own after) : own.IsPlain := by
  have hline : IsOneLine (SettingsFormat.sectionName script) := by
    obtain ⟨hfeed, hreturn⟩ := h.isOneLine
    simp [IsOneLine, SettingsFormat.sectionName, hfeed, hreturn]
  refine ⟨?_, h.name ▸ hline, fun e he => ?_⟩
  · rw [h.name]
    exact fun hnil => absurd (congrArg String.toList hnil) (by simp [SettingsFormat.sectionName])
  · exact (isEntry_and_isTidy h.isWritable (h.entries.mem_iff.1 he)).1

theorem isTidy_own (h : w.IsIn script before own after) : own.IsTidy := by
  refine ⟨fun e he => (isEntry_and_isTidy h.isWritable (h.entries.mem_iff.1 he)).2, ?_⟩
  rw [(h.entries.map (·.1)).nodup_iff]
  show ["excludedWindows", "windowOpacityPercentage", "showNewWindowNames",
    "showDebugLogs"].Nodup
  decide

theorem name_ne_commonSection (h : w.IsIn script before own after) :
    own.name ≠ Ini.commonSection := by
  rw [h.name]
  intro heq
  have hhead := congrArg (fun s : String => s.toList.head?) heq
  rw [SettingsFormat.sectionName, String.toList_append] at hhead
  cases hhead

theorem isNamed_own (h : w.IsIn script before own after) : own.IsNamed :=
  fun e he => (h.isTidy_own.1 e he).isNamed

theorem isPlain_all (h : w.IsIn script before own after) :
    ∀ s ∈ before ++ own :: after, s.IsPlain := by
  have hothers := List.forall_mem_append.1 h.isPlain
  rw [List.forall_mem_append, List.forall_mem_cons]
  exact ⟨hothers.1, h.isPlain_own, hothers.2⟩

variable {text : String}

theorem forall₂_rawLines (h : w.IsIn script before own after)
    (htext : IsTextOf (before ++ own :: after) text) :
    List.Forall₂ Text.IsRaw (Text.rawLines text.toList)
      ((before ++ own :: after).flatMap Section.lines) :=
  htext.forall₂_rawLines h.isPlain_all
    (List.append_ne_nil_of_right_ne_nil before (List.cons_ne_nil own after))

/-- A line without a name is one of another section. -/
theorem unnamed_eq_nil_iff (h : w.IsIn script before own after)
    (htext : IsTextOf (before ++ own :: after) text) :
    unnamed 1 (Text.rawLines text.toList) = [] ↔ ∀ s ∈ before ++ after, s.IsNamed := by
  rw [Ini.unnamed_eq_nil_iff_of_lines h.isPlain_all (h.forall₂_rawLines htext),
    List.forall_mem_append, List.forall_mem_cons, List.forall_mem_append]
  exact ⟨fun ⟨hbefore, _, hafter⟩ => ⟨hbefore, hafter⟩,
    fun ⟨hbefore, hafter⟩ => ⟨hbefore, h.isNamed_own, hafter⟩⟩

theorem not_mem_return (h : w.IsIn script before own after)
    (htext : IsTextOf (before ++ own :: after) text) : '\r' ∉ text.toList :=
  htext.not_mem_return h.isPlain_all

/-- The section gives entries of the settings that were meant, and leaves out only a default. -/
theorem exists_readIni_eq (h : w.IsIn script before own after)
    (htext : IsTextOf (before ++ own :: after) text)
    (hnamed : ∀ s ∈ before ++ after, s.IsNamed) (path : String) :
    ∃ entries, SettingsFormat.readIni path script text.toUTF8 = .ok (some entries) ∧
      entries ⊆ w.settings.entries ∧ Settings.ofEntries entries = .ok w.settings := by
  obtain ⟨sections, hread, hown⟩ := (Ini.read_sections h.isPlain_all h.isTidy_own
    h.name_ne_commonSection h.others (h.forall₂_rawLines htext)).1
      ((h.unnamed_eq_nil_iff htext).2 hnamed)
  obtain ⟨entries, hentries, hsub, hkeys⟩ :=
    SettingsFormat.exists_mapM_convert h.isWritable h.entries.subset
  rw [h.name] at hown
  refine ⟨entries, ?_, hsub, ?_⟩
  · rw [SettingsFormat.readIni, SettingsFormat.readSections_toUTF8 path (h.not_mem_return htext),
      hread, mapError_ok, ok_bind]
    simp only [hown, hentries]
    rfl
  · have hvalid := isValid_settings h.isWritable
    refine Settings.ofEntries_of_subset hvalid hsub fun setting hmissing => ?_
    rw [hkeys] at hmissing
    exact get_settings_of_not_mem h.entries hmissing

theorem readIni_eq_error (h : w.IsIn script before own after)
    (htext : IsTextOf (before ++ own :: after) text)
    (hnamed : ¬ ∀ s ∈ before ++ after, s.IsNamed) (path : String) :
    SettingsFormat.readIni path script text.toUTF8 =
      .error (.settings (.badIni path (.badLines (unnamed 1 (Text.rawLines text.toList))))) := by
  have hread := (Ini.read_sections h.isPlain_all h.isTidy_own h.name_ne_commonSection h.others
    (h.forall₂_rawLines htext)).2 fun hnil => hnamed ((h.unnamed_eq_nil_iff htext).1 hnil)
  rw [SettingsFormat.readIni, SettingsFormat.readSections_toUTF8 path (h.not_mem_return htext),
    hread, mapError_error, error_bind]

end Written.IsIn

namespace Loader

variable {w : Written} {script text : String} {before after : List Section} {own : Section}
  {l : Loader}

/-- Where every line has a name, the settings are read back. -/
theorem run_load_of_isNamed (h : w.IsIn script before own after)
    (htext : IsTextOf (before ++ own :: after) text)
    (hnamed : ∀ s ∈ before ++ after, s.IsNamed) (hformat : l.format = .ini script)
    (changed : Int) :
    (load (.ofText changed text)).run l =
      ⟨.ok (), { l with settings := w.settings, loaded := some changed }, []⟩ := by
  obtain ⟨entries, hread, hsub, hentries⟩ := h.exists_readIni_eq htext hnamed l.path
  have hvalidate : (Settings.validate entries : Act Loader Settings).run l =
      ⟨.ok w.settings, l, []⟩ := by
    rw [Settings.run_validate_warning, Settings.accepted_of_subset hsub, hentries,
      Settings.warned_of_subset hsub, List.map_nil]
  have hrun : (Loader.entries (.ofText changed text)).run l = ⟨.ok entries, l, []⟩ :=
    run_entries_ofText hformat hread (by simp) changed
  rw [load, Act.run_bind_eq hrun, Act.run_bind_eq hvalidate]
  rfl

/-- A line that starts with a delimiter has the file refused. -/
theorem run_load_of_not_isNamed (h : w.IsIn script before own after)
    (htext : IsTextOf (before ++ own :: after) text)
    (hnamed : ¬ ∀ s ∈ before ++ after, s.IsNamed) (hformat : l.format = .ini script)
    (changed : Int) :
    (load (.ofText changed text)).run l =
      ⟨.error (.settings (.badIni l.path (.badLines (unnamed 1 (Text.rawLines text.toList))))), l,
        []⟩ := by
  have hread := h.readIni_eq_error htext hnamed l.path
  rw [load, Act.run_bind_eq_of_error (run_entries_ofText hformat hread (by simp) changed)]

/-- **What the desktop wrote is read back.** Let a file have a section with the exclusion list, the
opacity and the two flags of a script, on lines of their own and in any order, among any other
sections. If every line of those has a name, loading the file puts in force just these settings,
with the default poll interval, and logs nothing. Otherwise the whole file is refused for the lines
that start with a delimiter, and the loader stays as it was. -/
theorem written_settings_read_back (h : w.IsIn script before own after)
    (htext : IsTextOf (before ++ own :: after) text) (hformat : l.format = .ini script)
    (changed : Int) :
    ((∀ s ∈ before ++ after, s.IsNamed) →
      (load (.ofText changed text)).run l =
        ⟨.ok (), { l with settings := w.settings, loaded := some changed }, []⟩) ∧
    ((¬ ∀ s ∈ before ++ after, s.IsNamed) →
      (load (.ofText changed text)).run l =
        ⟨.error (.settings (.badIni l.path
          (.badLines (unnamed 1 (Text.rawLines text.toList))))), l, []⟩) :=
  ⟨fun hnamed => run_load_of_isNamed h htext hnamed hformat changed,
    fun hnamed => run_load_of_not_isNamed h htext hnamed hformat changed⟩

/-- An exclusion list with everything in it that means something to an ini file, between sections
that hold it too. -/
theorem written_settings_read_back_of_marks :
    let w : Written := ⟨"[a], \x7bb\x7d=50%(c)s; #d:", -5, true, false⟩
    let before : Section := ⟨"Plugins", [("a", "[b]"), ("c:d=", " # e")], 0⟩
    let own : Section := ⟨"Script-s", [("showDebugLogs", "false"),
      ("windowOpacityPercentage", "-5"), ("excludedWindows", "[a], \x7bb\x7d=50%(c)s; #d:"),
      ("showNewWindowNames", "true")], 1⟩
    let after : Section := ⟨"[x]y]", [], 2⟩
    let text := "[Plugins]\na=[b]\nc:d== # e\n\n[Script-s]\nshowDebugLogs=false\n" ++
      "windowOpacityPercentage=-5\nexcludedWindows=[a], \x7bb\x7d=50%(c)s; #d:\n" ++
      "showNewWindowNames=true\n\n\n[[x]y]]"
    let l : Loader := { path := "kwinrc", format := .ini "s" }
    w.IsIn "s" [before] own [after] ∧ IsTextOf ([before] ++ own :: [after]) text ∧
      (∀ s ∈ [before] ++ [after], s.IsNamed) ∧ l.format = .ini "s" ∧
      (load (.ofText 1000 text)).run l =
        ⟨.ok (), { l with settings := w.settings, loaded := some 1000 }, []⟩ := by
  intro w before own after text l
  have h : w.IsIn "s" [before] own [after] := by
    refine ⟨⟨by decide, by decide, ?_⟩, by decide, rfl, by decide, by decide, by decide⟩
    decide +kernel
  have htext : IsTextOf ([before] ++ own :: [after]) text := ⟨[], .inl rfl, by decide +kernel⟩
  have hnamed : ∀ s ∈ [before] ++ [after], s.IsNamed := by
    decide
  exact ⟨h, htext, hnamed, rfl, (written_settings_read_back h htext rfl 1000).1 hnamed⟩

/-- A line that starts with a colon has no name, although it is one of name and value. -/
theorem not_written_settings_read_back_of_colon :
    let w : Written := ⟨"", 55, true, false⟩
    let own : Section := ⟨"Script-windowopacity", w.entries, 0⟩
    let other : Section := ⟨"Other", [(":x", "1")], 0⟩
    let text := "[Script-windowopacity]\nexcludedWindows=\nwindowOpacityPercentage=55\n" ++
      "showNewWindowNames=true\nshowDebugLogs=false\n[Other]\n:x=1\n"
    let l : Loader := { path := "kwinrc", format := .ini "windowopacity" }
    w.IsIn "windowopacity" [] own [other] ∧ IsTextOf ([] ++ own :: [other]) text ∧
      (load (.ofText 1000 text)).run l =
        ⟨.error (.settings (.badIni "kwinrc" (.badLines [(7, ":x=1\n".toList)]))), l, []⟩ := by
  intro w own other text l
  have h : w.IsIn "windowopacity" [] own [other] := by
    refine ⟨⟨by decide, by decide, ?_⟩, by decide, rfl, by decide, by decide, by decide⟩
    decide +kernel
  have htext : IsTextOf ([] ++ own :: [other]) text := ⟨['\n'], .inr rfl, by decide +kernel⟩
  have hunnamed : unnamed 1 (Text.rawLines text.toList) = [(7, ":x=1\n".toList)] := by
    decide +kernel
  refine ⟨h, htext, ?_⟩
  rw [run_load_of_not_isNamed h htext (by decide) rfl, hunnamed]

end Loader

end Translucency
