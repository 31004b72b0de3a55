import Translucency.Proofs.Settings.Loading

/-!
# How settings can go wrong without being refused

Settings that are not acceptable are refused, and a refusal has a wording. Five things go wrong in
another way: a directory in the place of a document, a reader of documents that is stopped, bytes of
an ini file that are no text, an unknown key that cannot be printed, and an integer that no floating
point number can hold. `Breaks` lists them and `Loader.fresh_eq_error_iff` says that the list is
complete and exact.

Bytes that are no text are found out where they are met. In an ini file a line in front of them that
has no section over it is met earlier, and then the file is refused.
-/

namespace Translucency

variable {α : Type}

/-- Whether a fault is about the settings. -/
def Fault.IsWorded (fault : Fault) : Prop := ∃ f, fault = .settings f

/-! ## The entries of a file -/

namespace SettingsFormat

theorem failsOnly_convert (key text : String) : FailsOnly Fault.IsWorded (convert key text) := by
  have hflag : FailsOnly Fault.IsWorded (convertFlag key text) := by
    dsimp only [convertFlag]
    split
    · exact .ok _
    · split
      · exact .ok _
      · exact .error ⟨_, rfl⟩
  have hnumber : FailsOnly Fault.IsWorded (convertNumber key text) := by
    dsimp only [convertNumber]
    split
    · exact .ok _
    · exact .error ⟨_, rfl⟩
  unfold convert
  split
  · exact hflag
  · exact hflag
  · exact hnumber
  · exact hnumber
  · exact .ok _
  · exact .ok _

/-- Whether the lines in front of bytes that are no text come to be refused. -/
def IsRefusedEarly (content : ByteArray) : Prop :=
  ∃ number line, Ini.read (File.linesBefore content) = .error (.noHeader number line)

/-- Bytes that are no text stop the reading, unless a line in front of them is refused. -/
theorem readSections_of_undecodable {path : String} {content : ByteArray}
    (h : content.utf8Decode? = none) (hlines : ¬ IsRefusedEarly content) :
    readSections path content = .error (.mishap .undecodable) := by
  have hdecode : File.lines content = (File.linesBefore content, some .undecodable) := by
    unfold File.lines File.decode
    rw [h]
  cases hread : Ini.read (File.linesBefore content) with
  | ok sections => simp only [readSections, hdecode, hread]
  | error fault =>
    cases fault with
    | noHeader number line => exact absurd ⟨number, line, hread⟩ hlines
    | badLines lines => simp only [readSections, hdecode, hread]

/-- Whether a fault is what becomes of an ini file: it is about the settings, or there are bytes that
are no text and nothing in front of them is refused. -/
def IsIniFault (content : ByteArray) (fault : Fault) : Prop :=
  fault.IsWorded ∨
    fault = .mishap .undecodable ∧ content.utf8Decode? = none ∧ ¬ IsRefusedEarly content

theorem failsOnly_readSections (path : String) (content : ByteArray) :
    FailsOnly (IsIniFault content) (readSections path content) := by
  cases hdecode : content.utf8Decode? with
  | none =>
    by_cases hlines : IsRefusedEarly content
    · obtain ⟨number, line, hread⟩ := hlines
      have hstopped : File.lines content = (File.linesBefore content, some .undecodable) := by
        unfold File.lines File.decode
        rw [hdecode]
      simp only [readSections, hstopped, hread]
      exact .error (.inl ⟨_, rfl⟩)
    · rw [readSections_of_undecodable hdecode hlines]
      exact .error (.inr ⟨rfl, hdecode, hlines⟩)
  | some chars =>
    have hok : File.decode content = .ok (Text.unifyBreaks chars.toList) := by
      unfold File.decode
      rw [hdecode]
    simp only [readSections, File.lines_of_decode hok]
    -- There are no bytes that are no text, so each fault is one of the lines.
    cases Ini.read (Text.rawLines (Text.unifyBreaks chars.toList)) with
    | ok sections => exact FailsOnly.ok _
    | error fault => cases fault <;> exact FailsOnly.error (.inl ⟨_, rfl⟩)

theorem failsOnly_readIni (path script : String) (content : ByteArray) :
    FailsOnly (IsIniFault content) (readIni path script content) := by
  refine FailsOnly.bind (failsOnly_readSections path content) fun sections _ => ?_
  split
  · exact .ok _
  · refine FailsOnly.bind (FailsOnly.mapM (fun e => ?_) _) fun _ _ => .ok _
    refine FailsOnly.bind ?_ fun _ _ => .ok _
    exact (failsOnly_convert e.1 e.2).mono fun _ h => .inl h

/-- A document is refused unless its reader is stopped. -/
theorem failsOnly_readDocument (path : String) (reader : DocumentReader) (content : ByteArray) :
    FailsOnly (fun fault => fault.IsWorded ∨ reader content = .error (.stopped fault))
      (readDocument path reader content) := by
  unfold readDocument
  split
  · exact .error (.inl ⟨_, rfl⟩)
  · next fault h => exact .error (.inr h)
  · split
    · exact .ok _
    · exact .error (.inl ⟨_, rfl⟩)

end SettingsFormat

/-! ## Validation -/

namespace Settings

/-- Whether an entry holds an integer that no floating point number can hold. -/
def HoldsHuge (entries : List (Value × Value)) (setting : Setting) : Prop :=
  ∃ n, Value.lookup? (.text setting.key) entries = some (.int n) ∧
    (Binary64.ofInt n).isFinite = false

/-- Whether checking the entries in turn comes to an integer that no floating point number can
hold: as the opacity, or as the interval when everything before it is accepted. -/
inductive Overflows (entries : List (Value × Value)) : Prop
  | opacity (h : HoldsHuge entries .opacity)
  | interval (hopacity : ∃ x, readOr entries .opacity ({} : Settings).opacity readOpacity = .ok x)
      (hexclusions :
        ∃ x, readOr entries .exclusions ({} : Settings).exclusions readExclusions = .ok x)
      (hnames :
        ∃ x, readOr entries .showNames ({} : Settings).showNames (readFlag .showNames) = .ok x)
      (hdebug :
        ∃ x, readOr entries .showDebug ({} : Settings).showDebug (readFlag .showDebug) = .ok x)
      (h : HoldsHuge entries .interval)

/-- A fault of a number: it is refused, or it is an integer that is too large. -/
def IsNumberFault (v : Value) (fault : Fault) : Prop :=
  fault.IsWorded ∨
    fault = .mishap .tooLarge ∧ ∃ n, v = .int n ∧ (Binary64.ofInt n).isFinite = false

theorem failsOnly_finiteNumber? (v : Value) : FailsOnly (IsNumberFault v) (finiteNumber? v) := by
  unfold finiteNumber?
  split
  · next n =>
    split
    · exact .ok _
    · next h => exact .error (.inr ⟨rfl, n, rfl, by simpa using h⟩)
  · exact .ok _
  · exact .ok _

theorem failsOnly_readOpacity (v : Value) : FailsOnly (IsNumberFault v) (readOpacity v) := by
  refine (failsOnly_finiteNumber? v).bind fun n _ => ?_
  cases n with
  | none => exact .error (.inl ⟨_, rfl⟩)
  | some n => exact .ok _

theorem failsOnly_readInterval (v : Value) : FailsOnly (IsNumberFault v) (readInterval v) := by
  refine (failsOnly_finiteNumber? v).bind fun n _ => ?_
  cases n with
  | none => exact .error (.inl ⟨_, rfl⟩)
  | some n =>
    simp only
    split
    · exact .error (.inl ⟨_, rfl⟩)
    · exact .ok _

theorem failsOnly_readExclusions (v : Value) : FailsOnly Fault.IsWorded (readExclusions v) := by
  unfold readExclusions
  split
  · exact .ok _
  · exact .ok _
  · exact .error ⟨_, rfl⟩

theorem failsOnly_readFlag (setting : Setting) (v : Value) :
    FailsOnly Fault.IsWorded (readFlag setting v) := by
  unfold readFlag
  split
  · exact .ok _
  · exact .error ⟨_, rfl⟩

/-- A reading of an entry fails only as the reader does on the value that is there. -/
theorem failsOnly_readOr {entries : List (Value × Value)} {setting : Setting} {default : α}
    {reader : Value → Except Fault α} {P : Fault → Prop}
    (h : ∀ v, Value.lookup? (.text setting.key) entries = some v → FailsOnly P (reader v)) :
    FailsOnly P (readOr entries setting default reader) := by
  unfold readOr
  split
  · next v hv => exact h v hv
  · exact .ok _

theorem failsOnly_readOr_number {entries : List (Value × Value)} {setting : Setting} {default : α}
    {reader : Value → Except Fault α} (h : ∀ v, FailsOnly (IsNumberFault v) (reader v)) :
    FailsOnly (fun fault => fault.IsWorded ∨ fault = .mishap .tooLarge ∧ HoldsHuge entries setting)
      (readOr entries setting default reader) := by
  refine failsOnly_readOr fun v hv => (h v).mono fun fault hfault => ?_
  obtain hworded | ⟨hlarge, n, rfl, hn⟩ := hfault
  · exact .inl hworded
  · exact .inr ⟨hlarge, n, hv, hn⟩

theorem finiteNumber?_of_huge {n : Int} (h : (Binary64.ofInt n).isFinite = false) :
    finiteNumber? (.int n) = .error (.mishap .tooLarge) := by
  simp [finiteNumber?, h]

theorem readOpacity_of_huge {entries : List (Value × Value)} (h : HoldsHuge entries .opacity)
    (default : Number) :
    readOr entries .opacity default readOpacity = .error (.mishap .tooLarge) := by
  obtain ⟨n, hlookup, hn⟩ := h
  rw [readOr, hlookup]
  simp only [readOpacity, finiteNumber?_of_huge hn, error_bind]

theorem readInterval_of_huge {entries : List (Value × Value)} (h : HoldsHuge entries .interval)
    (default : Binary64) :
    readOr entries .interval default readInterval = .error (.mishap .tooLarge) := by
  obtain ⟨n, hlookup, hn⟩ := h
  rw [readOr, hlookup]
  simp only [readInterval, finiteNumber?_of_huge hn, error_bind]

/-- Entries are refused unless one of them overflows. -/
theorem failsOnly_ofEntries (entries : List (Value × Value)) :
    FailsOnly (fun fault => fault.IsWorded ∨ fault = .mishap .tooLarge ∧ Overflows entries)
      (ofEntries entries) := by
  refine FailsOnly.bind ?_ fun opacity hopacity => ?_
  · refine (failsOnly_readOr_number failsOnly_readOpacity).mono fun fault hfault => ?_
    exact hfault.imp_right fun ⟨hlarge, hhuge⟩ => ⟨hlarge, .opacity hhuge⟩
  refine FailsOnly.bind ?_ fun exclusions hexclusions => ?_
  · exact (failsOnly_readOr fun v _ => failsOnly_readExclusions v).mono fun _ h => .inl h
  refine FailsOnly.bind ?_ fun names hnames => ?_
  · exact (failsOnly_readOr fun v _ => failsOnly_readFlag _ v).mono fun _ h => .inl h
  refine FailsOnly.bind ?_ fun debug hdebug => ?_
  · exact (failsOnly_readOr fun v _ => failsOnly_readFlag _ v).mono fun _ h => .inl h
  -- The interval is checked last, so it matters only where the others were accepted.
  refine FailsOnly.bind ?_ fun _ _ => .ok _
  refine (failsOnly_readOr_number failsOnly_readInterval).mono fun fault hfault => ?_
  exact hfault.imp_right fun ⟨hlarge, hhuge⟩ =>
    ⟨hlarge, .interval ⟨_, hopacity⟩ ⟨_, hexclusions⟩ ⟨_, hnames⟩ ⟨_, hdebug⟩ hhuge⟩

theorem ofEntries_of_overflows {entries : List (Value × Value)} (h : Overflows entries) :
    ofEntries entries = .error (.mishap .tooLarge) := by
  dsimp only [ofEntries]
  cases h with
  | opacity hhuge => rw [readOpacity_of_huge hhuge, error_bind]
  | interval hopacity hexclusions hnames hdebug hhuge =>
    obtain ⟨_, hopacity⟩ := hopacity
    obtain ⟨_, hexclusions⟩ := hexclusions
    obtain ⟨_, hnames⟩ := hnames
    obtain ⟨_, hdebug⟩ := hdebug
    rw [hopacity, ok_bind, hexclusions, ok_bind, hnames, ok_bind, hdebug, ok_bind,
      readInterval_of_huge hhuge, error_bind]

end Settings

/-! ## Files -/

/-- What stands at a path breaks the reading of settings there: it is neither accepted nor refused,
and this is the fault. -/
inductive Breaks (path : String) : SettingsFormat → File → Fault → Prop
  /-- A directory in the place of a document. -/
  | directory {reader : DocumentReader} {changed : Int} :
      Breaks path (.documents reader) (.directory changed) (.mishap .directory)
  /-- A document whose reader is stopped by what is no refusal. -/
  | stopped {reader : DocumentReader} {changed : Int} {content : ByteArray} {fault : Fault}
      (h : reader content = .error (.stopped fault)) (hfault : Loader.isRefusal fault = false) :
      Breaks path (.documents reader) (.file changed content) fault
  /-- Bytes of an ini file that are not UTF-8, with nothing in front of them that is refused. -/
  | undecodable {script : String} {changed : Int} {content : ByteArray}
      (h : content.utf8Decode? = none) (hlines : ¬ SettingsFormat.IsRefusedEarly content) :
      Breaks path (.ini script) (.file changed content) (.mishap .undecodable)
  /-- An unknown key that cannot be printed. -/
  | unprintable {format : SettingsFormat} {file : File} {entries : List (Value × Value)}
      (hentries : Loader.found path format file = .ok entries)
      (hlong : Settings.HoldsLongKey entries) : Breaks path format file (.mishap .badText)
  /-- An integer beyond the floating point numbers. -/
  | overflow {format : SettingsFormat} {file : File} {entries : List (Value × Value)}
      (hentries : Loader.found path format file = .ok entries)
      (hlong : ¬ Settings.HoldsLongKey entries) (hoverflow : Settings.Overflows entries) :
      Breaks path format file (.mishap .tooLarge)

namespace Loader

/-- A fault of a reading: a refusal, or one for which the file is to blame. -/
def IsFileFault (path : String) (format : SettingsFormat) (file : File) (fault : Fault) : Prop :=
  isRefusal fault = true ∨ Breaks path format file fault

theorem isRefusal_of_isWorded {fault : Fault} (h : fault.IsWorded) : isRefusal fault = true := by
  obtain ⟨f, rfl⟩ := h
  rfl

theorem failsOnly_found (path : String) (format : SettingsFormat) (file : File) :
    FailsOnly (IsFileFault path format file) (found path format file) := by
  cases file with
  | absent => cases format <;> exact .error (.inl rfl)
  | directory changed =>
    cases format with
    | documents reader => exact .error (.inr .directory)
    | ini script => exact .ok []
  | file changed content =>
    cases format with
    | documents reader =>
      refine (SettingsFormat.failsOnly_readDocument path reader content).mono fun fault hfault => ?_
      obtain hworded | hstopped := hfault
      · exact .inl (isRefusal_of_isWorded hworded)
      · -- The reader may be stopped by what counts as a refusal, too.
        cases hrefusal : isRefusal fault with
        | true => exact .inl hrefusal
        | false => exact .inr (.stopped hstopped hrefusal)
    | ini script =>
      refine FailsOnly.bind ?_ fun _ _ => .ok _
      refine (SettingsFormat.failsOnly_readIni path script content).mono fun fault hfault => ?_
      obtain hworded | ⟨rfl, hnone, hlines⟩ := hfault
      · exact .inl (isRefusal_of_isWorded hworded)
      · exact .inr (.undecodable hnone hlines)

/-- Settings are refused unless the file breaks the reading. -/
theorem failsOnly_fresh (path : String) (format : SettingsFormat) (file : File) :
    FailsOnly (IsFileFault path format file) (fresh path format file) := by
  refine (failsOnly_found path format file).bind fun entries hentries => ?_
  unfold Settings.accepted
  split
  · next hlong => exact .error (.inr (.unprintable hentries hlong))
  · next hlong =>
    refine (Settings.failsOnly_ofEntries entries).mono fun fault hfault => ?_
    obtain hworded | ⟨rfl, hoverflow⟩ := hfault
    · exact .inl (isRefusal_of_isWorded hworded)
    · exact .inr (.overflow hentries hlong hoverflow)

/-- A file that breaks the reading is no refusal, whatever else is in it. -/
theorem Breaks.fresh_eq {path : String} {format : SettingsFormat} {file : File} {fault : Fault}
    (h : Breaks path format file fault) :
    fresh path format file = .error fault ∧ isRefusal fault = false := by
  unfold fresh
  cases h with
  | directory => exact ⟨rfl, rfl⟩
  | stopped h hfault =>
    refine ⟨?_, hfault⟩
    simp only [found, SettingsFormat.readDocument, h]
    rfl
  | undecodable h hlines =>
    refine ⟨?_, rfl⟩
    simp only [found, SettingsFormat.readIni,
      SettingsFormat.readSections_of_undecodable h hlines, error_bind]
  | unprintable hentries hlong =>
    refine ⟨?_, rfl⟩
    rw [hentries, ok_bind, Settings.accepted, if_pos hlong]
  | overflow hentries hlong hoverflow =>
    refine ⟨?_, rfl⟩
    rw [hentries, ok_bind, Settings.accepted, if_neg hlong,
      Settings.ofEntries_of_overflows hoverflow]

/-- **The list of what breaks a reading is complete and exact.** -/
theorem fresh_eq_error_iff (path : String) (format : SettingsFormat) (file : File) (fault : Fault) :
    fresh path format file = .error fault ∧ isRefusal fault = false ↔
      Breaks path format file fault := by
  refine ⟨fun ⟨h, hfault⟩ => ?_, Breaks.fresh_eq⟩
  obtain hrefusal | hbreaks := failsOnly_fresh path format file fault h
  · rw [hfault] at hrefusal
    cases hrefusal
  · exact hbreaks

end Loader

end Translucency
