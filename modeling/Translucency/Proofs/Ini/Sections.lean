import Translucency.Proofs.Ini.Lines

/-!
# Reading back the sections of an ini file

Sections are written one after another: a header in brackets, then lines `name=value`, none of them
indented or in the shape of a comment or a header (`Section.IsPlain`). Whatever else stands in the
names and values, reading such a text changes the values of its own sections only and refuses
nothing but the lines without a name (`Reader.exists_passes_sections`). A section whose names and
values have no blanks around them, whose names are told apart and hold no delimiter
(`Section.IsTidy`) is read back as it was written (`read_sections`).
-/

namespace Translucency.Ini

open Text

/-! ## What is written -/

/-- A section as it is written. -/
structure Section where
  name : String
  entries : List (String × String)
  /-- The number of empty lines before the header. -/
  gap : Nat := 0

def headerLine (name : String) : List Char := '[' :: (name.toList ++ [']'])

def entryLine (e : String × String) : List Char := e.1.toList ++ '=' :: e.2.toList

def Section.lines (s : Section) : List (List Char) :=
  List.replicate s.gap [] ++ headerLine s.name :: s.entries.map entryLine

/-- Whether a text consists of sections. Its last line may lack the line feed. -/
def IsTextOf (sections : List Section) (text : String) : Prop :=
  ∃ ending, (ending = [] ∨ ending = ['\n']) ∧
    text = String.ofList (join ['\n'] (sections.flatMap Section.lines) ++ ending)

/-- Whether a text has no line break. -/
def IsOneLine (s : String) : Prop := '\n' ∉ s.toList ∧ '\r' ∉ s.toList

/-- Whether an entry stays on its line, which is not indented and neither a comment nor a header. -/
def IsEntry (e : String × String) : Prop :=
  e.1.toList.head?.any startsEntry = true ∧ IsOneLine e.1 ∧ IsOneLine e.2

/-- Whether a section stays on its lines. -/
def Section.IsPlain (s : Section) : Prop :=
  s.name ≠ "" ∧ IsOneLine s.name ∧ ∀ e ∈ s.entries, IsEntry e

/-- Whether something is left for the name of an entry. -/
def IsNamed (e : String × String) : Prop := e.1.toList.head?.any isDelimiter = false

/-- Whether an entry is read back as it is written. -/
def IsTidy (e : String × String) : Prop :=
  e.1.toList.any isDelimiter = false ∧ trimmed e.1 = e.1 ∧ trimmed e.2 = e.2

/-- Whether every entry of a section has a name. -/
def Section.IsNamed (s : Section) : Prop := ∀ e ∈ s.entries, Ini.IsNamed e

/-- Whether a section is read back as it is written. -/
def Section.IsTidy (s : Section) : Prop :=
  (∀ e ∈ s.entries, Ini.IsTidy e) ∧ (s.entries.map (·.1)).Nodup

theorem Section.of_mem_lines {s : Section} {line : List Char} (h : line ∈ s.lines) :
    line = [] ∨ line = headerLine s.name ∨ ∃ e ∈ s.entries, entryLine e = line := by
  rw [Section.lines, List.mem_append, List.mem_cons, List.mem_map] at h
  exact h.imp_left fun hgap => (List.mem_replicate.1 hgap).2

instance (s : String) : Decidable (IsOneLine s) := inferInstanceAs (Decidable (_ ∧ _))

instance (e : String × String) : Decidable (IsEntry e) := inferInstanceAs (Decidable (_ ∧ _))

instance (s : Section) : Decidable s.IsPlain := inferInstanceAs (Decidable (_ ∧ _ ∧ _))

instance (e : String × String) : Decidable (IsNamed e) := inferInstanceAs (Decidable (_ = false))

instance (s : Section) : Decidable s.IsNamed :=
  inferInstanceAs (Decidable (∀ e ∈ s.entries, Ini.IsNamed e))

/-! ## Headers and entries -/

theorem IsEntry.exists_cons {e : String × String} (he : IsEntry e) :
    ∃ c name, e.1.toList = c :: name ∧ startsEntry c = true := by
  obtain ⟨c, hhead, hc⟩ := (Option.any_eq_true ..).1 he.1
  obtain ⟨name, hname⟩ := List.head?_eq_some_iff.1 hhead
  exact ⟨c, name, hname, hc⟩

/-- Without a delimiter in it, the name does not start with one. -/
theorem IsTidy.isNamed {e : String × String} (he : IsTidy e) : IsNamed e := by
  rw [IsNamed, Option.any_eq_false]
  exact fun c hc => Bool.eq_false_iff.2 (List.any_eq_false.1 he.1 c (List.mem_of_mem_head? hc))

/-- The name in a header is found, whatever brackets it holds itself. -/
theorem header?_headerLine {name : String} (hname : name ≠ "") :
    header? ('[' :: trimRight (name.toList ++ [']'])) = some name := by
  rw [trimRight_append_cons (by decide), header?]
  simp [trimRight, trimLeft, hname]

/-- An entry has a name unless it starts with a delimiter. -/
theorem exists_name_of_mem {c : Char} (hc : isBlank c = false) {s : List Char} (hs : '=' ∈ s) :
    ∃ name value, entry? (c :: s) = some (name, value) ∧ name.isEmpty = isDelimiter c := by
  have hdrop : (c :: s).dropWhile (!isDelimiter ·) ≠ [] := by
    intro hnil
    have := List.dropWhile_eq_nil_iff.1 hnil '=' (List.mem_cons_of_mem c hs)
    cases this
  obtain ⟨d, value, hvalue⟩ := List.exists_cons_of_ne_nil hdrop
  refine ⟨_, trim value, by rw [ entry?, hvalue], ?_⟩
  cases hd : isDelimiter c with
  | true => simp [hd, trimRight, trimLeft]
  | false =>
    rw [List.takeWhile_cons_of_pos (by rw [hd]; rfl), trimRight_cons hc]
    simp

/-- A tidy entry comes apart as it was put together. -/
theorem entry?_entryLine {e : String × String} (he : IsTidy e) :
    entry? (e.1.toList ++ '=' :: trimRight e.2.toList) = some (e.1, e.2.toList) := by
  obtain ⟨hname, htrim, htrim'⟩ := he
  have hplain : ∀ c ∈ e.1.toList, (!isDelimiter c) = true := fun c hc => by
    rw [Bool.not_eq_true', Bool.eq_false_iff]
    exact List.any_eq_false.1 hname c hc
  have hvalue := trim_toList_of_trimmed htrim'
  rw [ entry?, List.dropWhile_append_of_pos hplain, List.takeWhile_append_of_pos hplain,
    trimRight_of_trim hvalue]
  simp [isDelimiter, hvalue, trimRight_of_trim (trim_toList_of_trimmed htrim)]

/-- What the line of an entry is read as: a name that is empty just where the line starts with a
delimiter, and a value. For a tidy entry these are its own. -/
theorem IsEntry.exists_entry?_eq {e : String × String} (he : IsEntry e) :
    ∃ c s name value, entryLine e = c :: s ∧ startsEntry c = true ∧
      entry? (c :: trimRight s) = some (name, value) ∧ name.isEmpty = isDelimiter c ∧
        (IsTidy e → isDelimiter c = false ∧ name = e.1 ∧ value = e.2.toList) := by
  obtain ⟨c, key, hkey, hc⟩ := he.exists_cons
  have htrim : trimRight (key ++ '=' :: e.2.toList) = key ++ '=' :: trimRight e.2.toList :=
    trimRight_append_cons (by decide) key e.2.toList
  have hmem : '=' ∈ trimRight (key ++ '=' :: e.2.toList) := by
    rw [htrim]
    exact List.mem_append_right _ (List.mem_cons_self ..)
  obtain ⟨name, value, hentry, hempty⟩ := exists_name_of_mem (startsEntry_iff.1 hc).1 hmem
  refine ⟨c, _, name, value, by rw [entryLine, hkey, List.cons_append], hc, hentry, hempty, ?_⟩
  intro htidy
  have hd : ¬ isDelimiter c = true :=
    List.any_eq_false.1 htidy.1 c (hkey ▸ List.mem_cons_self ..)
  rw [htrim, ← List.cons_append, ← hkey, entry?_entryLine htidy] at hentry
  obtain ⟨rfl, rfl⟩ := Prod.mk.inj (Option.some.inj hentry)
  exact ⟨Bool.eq_false_iff.2 hd, rfl, rfl⟩

namespace Reader

variable {r : Reader} {raw : List Char} {raws : List (List Char)}

/-- A header passes. -/
theorem passes_header {name : String} (hname : name ≠ "") (hraw : IsRaw raw (headerLine name))
    (number : Nat) :
    r.Passes number [raw] [name] ({ r with indent := 0 }.enter name) := by
  refine .of_step (step_header hraw (header?_headerLine hname) r number)
    (isSound_of_entry_eq_none rfl) ?_ ?_
  · rw [head?_of_isRaw hraw]
    rfl
  · intro other hother
    rw [values_enter, if_neg fun h => hother (List.mem_singleton.2 h)]
    rfl

/-- An entry passes, and a tidy one of a new name comes after those that the section has. -/
theorem exists_passes_entry {e : String × String} (he : IsEntry e)
    (hraw : IsRaw raw (entryLine e)) {current : String} (hcurrent : r.current = some current)
    (number : Nat) :
    ∃ r', r.Passes number [raw] [current] r' ∧ r'.current = some current ∧
      (IsTidy e → ∀ vs, r.values current = some vs → e.1 ∉ vs.map (·.1) →
        r'.values current = some (vs ++ [e])) := by
  obtain ⟨c, s, name, value, hline, hc, hentry, hempty, htidy⟩ := he.exists_entry?_eq
  rw [hline] at hraw
  have hstep := step_entry hraw hc hentry hcurrent number
  rw [hempty] at hstep
  cases hd : isDelimiter c with
  | true =>
    rw [hd, if_pos rfl] at hstep
    refine ⟨_, .of_step hstep (isSound_of_entry_eq_none rfl) ?_ fun _ _ => rfl, hcurrent, ?_⟩
    · rw [head?_of_isRaw hraw, Option.any_some, hd]
      rfl
    · intro h
      rw [(htidy h).1] at hd
      cases hd
  | false =>
    rw [hd, if_neg Bool.false_ne_true] at hstep
    refine ⟨_, .of_step hstep (isSound_put hcurrent name value) ?_ ?_, hcurrent, ?_⟩
    · rw [head?_of_isRaw hraw, Option.any_some, hd]
      rfl
    · intro other hother
      rw [values_put, if_neg fun h => hother (List.mem_singleton.2 h)]
      rfl
    · intro h vs hvs hnew
      obtain ⟨rfl, rfl⟩ := (htidy h).2
      rw [values_put_new (r := { r with indent := 0 }) hvs hnew, value_singleton,
        trimRight_of_trim (trim_toList_of_trimmed h.2.2), String.ofList_toList]

/-! ## Sections -/

/-- Empty lines pass. -/
theorem exists_passes_gap (hsound : r.IsSound) {gap : Nat}
    (hraws : List.Forall₂ IsRaw raws (List.replicate gap [])) (number : Nat)
    (touched : List String) :
    ∃ r', r.Passes number raws touched r' ∧ ∀ name, r'.values name = r.values name := by
  induction gap generalizing r number raws with
  | zero =>
    obtain rfl := List.forall₂_nil_right_iff.1 hraws
    exact ⟨r, .nil hsound, fun _ => rfl⟩
  | succ gap ih =>
    obtain ⟨raw, rest, hraw, hrest, rfl⟩ := List.forall₂_cons_right_iff.1 hraws
    obtain ⟨r', hpasses, hvalues⟩ := ih (isSound_extend_empty hsound) hrest (number + 1)
    refine ⟨r', (passes_empty hsound number hraw).append hpasses, fun name => ?_⟩
    rw [hvalues, values_extend_empty hsound]

/-- The entries of a section pass, and tidy ones of new names come after those that it has. -/
theorem exists_passes_entries {es : List (String × String)} (hes : ∀ e ∈ es, IsEntry e)
    (hraws : List.Forall₂ IsRaw raws (es.map entryLine)) (hsound : r.IsSound) {current : String}
    (hcurrent : r.current = some current) (number : Nat) :
    ∃ r', r.Passes number raws [current] r' ∧
      ((∀ e ∈ es, IsTidy e) → ∀ vs, r.values current = some vs → ((vs ++ es).map (·.1)).Nodup →
        r'.values current = some (vs ++ es)) := by
  induction es generalizing r number raws with
  | nil =>
    obtain rfl := List.forall₂_nil_right_iff.1 hraws
    exact ⟨r, .nil hsound, fun _ vs hvs _ => by rw [List.append_nil, hvs]⟩
  | cons e es ih =>
    rw [List.forall_mem_cons] at hes
    obtain ⟨raw, rest, hraw, hrest, rfl⟩ := List.forall₂_cons_right_iff.1 hraws
    obtain ⟨r₁, hpasses₁, hcurrent₁, hvalues₁⟩ :=
      exists_passes_entry hes.1 hraw hcurrent number
    obtain ⟨r₂, hpasses₂, hvalues₂⟩ := ih hes.2 hrest hpasses₁.sound hcurrent₁ (number + 1)
    refine ⟨r₂, hpasses₁.append hpasses₂, fun htidy vs hvs hnodup => ?_⟩
    rw [List.forall_mem_cons] at htidy
    have hnew : e.1 ∉ vs.map (·.1) := by
      rw [List.map_append, List.nodup_append] at hnodup
      exact fun hmem => hnodup.2.2 e.1 hmem e.1 (List.mem_cons_self ..) rfl
    rw [List.append_cons] at hnodup ⊢
    exact hvalues₂ htidy.2 (vs ++ [e]) (hvalues₁ htidy.1 vs hvs hnew) hnodup

/-- A section passes, and a tidy one is there afterwards as it was written, if it was not there
before. -/
theorem exists_passes_section {s : Section} (hs : s.IsPlain)
    (hraws : List.Forall₂ IsRaw raws s.lines) (hsound : r.IsSound) (number : Nat) :
    ∃ r', r.Passes number raws [s.name] r' ∧
      (s.IsTidy → r.values s.name = none → r'.values s.name = some s.entries) := by
  obtain ⟨hname, -, hentries⟩ := hs
  obtain ⟨gap, rest, rfl, hgap, hrest⟩ := exists_append_of_forall₂ hraws
  obtain ⟨header, entries, hheader, hentries', rfl⟩ := List.forall₂_cons_right_iff.1 hrest
  obtain ⟨r₁, hpasses₁, hvalues₁⟩ := exists_passes_gap hsound hgap number [s.name]
  have hpasses₂ := passes_header (r := r₁) hname hheader (number + gap.length)
  obtain ⟨r₃, hpasses₃, hvalues₃⟩ := exists_passes_entries hentries hentries' hpasses₂.sound rfl
    (number + gap.length + 1)
  refine ⟨r₃, hpasses₁.append (hpasses₂.append hpasses₃), fun htidy hnone => ?_⟩
  refine hvalues₃ htidy.1 [] ?_ htidy.2
  rw [values_enter, if_pos rfl]
  have hnone₁ : r₁.values s.name = none := (hvalues₁ s.name).trans hnone
  exact congrArg (fun vs : Option _ => some (vs.getD [])) hnone₁

/-- Sections pass. -/
theorem exists_passes_sections {sections : List Section} (hsections : ∀ s ∈ sections, s.IsPlain)
    (hraws : List.Forall₂ IsRaw raws (sections.flatMap Section.lines)) (hsound : r.IsSound)
    (number : Nat) :
    ∃ r', r.Passes number raws (sections.map (·.name)) r' := by
  induction sections generalizing r number raws with
  | nil =>
    obtain rfl := List.forall₂_nil_right_iff.1 hraws
    exact ⟨r, .nil hsound⟩
  | cons s sections ih =>
    rw [List.forall_mem_cons] at hsections
    obtain ⟨first, rest, rfl, hfirst, hrest⟩ := exists_append_of_forall₂ hraws
    obtain ⟨r₁, hpasses₁, -⟩ := exists_passes_section hsections.1 hfirst hsound number
    obtain ⟨r₂, hpasses₂⟩ := ih hsections.2 hrest hpasses₁.sound (number + first.length)
    refine ⟨r₂, (hpasses₁.mono ?_).append (hpasses₂.mono ?_)⟩
    · exact List.cons_subset_cons s.name (List.nil_subset _)
    · exact List.subset_cons_self s.name _

end Reader

/-! ## Files -/

/-- The lines of a plain section hold no line breaks. -/
theorem not_mem_of_mem_lines {c : Char} (hc : c = '\n' ∨ c = '\r') {s : Section} (hs : s.IsPlain)
    {line : List Char} (hline : line ∈ s.lines) : c ∉ line := by
  have hone : ∀ {t : String}, IsOneLine t → c ∉ t.toList := by
    intro t ht
    obtain rfl | rfl := hc
    · exact ht.1
    · exact ht.2
  have hmarks : c ≠ '[' ∧ c ≠ ']' ∧ c ≠ '=' := by
    obtain rfl | rfl := hc <;> decide
  obtain ⟨-, hname, hentries⟩ := hs
  obtain rfl | rfl | ⟨e, he, rfl⟩ := Section.of_mem_lines hline
  · exact List.not_mem_nil
  · simp [headerLine, hmarks, hone hname]
  · simp [entryLine, hmarks, hone (hentries e he).2.1, hone (hentries e he).2.2]

/-- The last line of sections is a header or an entry, hence not empty. -/
theorem getLast?_lines_ne {sections : List Section} :
    (sections.flatMap Section.lines).getLast? ≠ some [] := by
  intro h
  obtain rfl | ⟨before, s, rfl⟩ := List.eq_nil_or_concat sections
  · cases h
  · rw [List.concat_eq_append, List.flatMap_append, List.flatMap_singleton, Section.lines,
      ← List.append_assoc, List.getLast?_append_of_ne_nil _ (List.cons_ne_nil _ _)] at h
    have hmem := List.mem_of_getLast? h
    simp [headerLine, entryLine] at hmem

/-- The lines of a text are those of its sections. -/
theorem IsTextOf.forall₂_rawLines {sections : List Section} {text : String}
    (h : IsTextOf sections text) (hplain : ∀ s ∈ sections, s.IsPlain) (hne : sections ≠ []) :
    List.Forall₂ IsRaw (rawLines text.toList) (sections.flatMap Section.lines) := by
  obtain ⟨ending, hending, htext⟩ := h
  rw [htext, String.toList_ofList]
  refine Text.forall₂_rawLines ?_ getLast?_lines_ne hending ?_
  · intro line hline
    obtain ⟨s, hs, hline⟩ := List.mem_flatMap.1 hline
    exact not_mem_of_mem_lines (.inl rfl) (hplain s hs) hline
  · rw [Ne, List.flatMap_eq_nil_iff]
    intro hnil
    obtain ⟨s, rest, rfl⟩ := List.exists_cons_of_ne_nil hne
    have := hnil s (List.mem_cons_self ..)
    simp [Section.lines] at this

theorem IsTextOf.not_mem_return {sections : List Section} {text : String}
    (h : IsTextOf sections text) (hplain : ∀ s ∈ sections, s.IsPlain) : '\r' ∉ text.toList := by
  obtain ⟨ending, hending, htext⟩ := h
  rw [htext, String.toList_ofList, List.mem_append]
  rintro (hjoin | hmem)
  · obtain hsep | ⟨line, hline, hmem⟩ := mem_join hjoin
    · cases hsep with
      | tail _ h => cases h
    · obtain ⟨s, hs, hline⟩ := List.mem_flatMap.1 hline
      exact not_mem_of_mem_lines (.inr rfl) (hplain s hs) hline hmem
  · obtain rfl | rfl := hending <;> simp at hmem

/-- The lines without a name are among the entries. -/
theorem unnamed_eq_nil_iff_of_lines {sections : List Section} {raws : List (List Char)}
    (hplain : ∀ s ∈ sections, s.IsPlain)
    (hraws : List.Forall₂ IsRaw raws (sections.flatMap Section.lines)) (number : Nat) :
    unnamed number raws = [] ↔ ∀ s ∈ sections, s.IsNamed := by
  have hentry : ∀ s ∈ sections, ∀ e ∈ s.entries,
      ((entryLine e).head?.any isDelimiter = false ↔ IsNamed e) := by
    intro s hs e he
    obtain ⟨c, name, hname, -⟩ := ((hplain s hs).2.2 e he).exists_cons
    simp [entryLine, IsNamed, hname]
  rw [unnamed_eq_nil_iff hraws]
  constructor
  · intro h s hs e he
    refine (hentry s hs e he).1 (h _ (List.mem_flatMap.2 ⟨s, hs, ?_⟩))
    exact List.mem_append_right _ (List.mem_cons_of_mem _ (List.mem_map_of_mem he))
  · intro h line hline
    obtain ⟨s, hs, hline⟩ := List.mem_flatMap.1 hline
    obtain rfl | rfl | ⟨e, he, rfl⟩ := Section.of_mem_lines hline
    · rfl
    · rfl
    · exact (hentry s hs e he).2 (h s hs e he)

theorem read_eq {raws : List (List Char)} {touched : List String} {r : Reader}
    (h : ({} : Reader).Passes 1 raws touched r) :
    read raws =
      if unnamed 1 raws = [] then .ok r.sections else .error (.badLines (unnamed 1 raws)) := by
  have hbad : r.bad.reverse = unnamed 1 raws := by
    rw [h.bad, List.append_nil, List.reverse_reverse]
  rw [read, h.steps_eq, ok_bind, ← List.isEmpty_reverse, hbad]
  simp only [List.isEmpty_iff]
  rfl

/-- The entries of a section, where no section lends its own to others. -/
theorem Reader.entries?_sections {r : Reader} (hcommon : r.values commonSection = none)
    (name : String) : entries? name r.sections = r.values name := by
  have hnone : r.sections.lookup commonSection = none := Option.map_eq_none_iff.1 hcommon
  rw [entries?, hnone, values]
  cases r.sections.lookup name with
  | none => rfl
  | some own => exact congrArg (fun l => some (valuesOf l)) (List.append_nil own)

/-- A tidy section is read back among others, unless there are lines without a name; these are
reported. -/
theorem read_sections {before after : List Section} {own : Section} {raws : List (List Char)}
    (hplain : ∀ s ∈ before ++ own :: after, s.IsPlain) (htidy : own.IsTidy)
    (hown : own.name ≠ commonSection)
    (hothers : ∀ s ∈ before ++ after, s.name ≠ own.name ∧ s.name ≠ commonSection)
    (hraws : List.Forall₂ IsRaw raws ((before ++ own :: after).flatMap Section.lines)) :
    (unnamed 1 raws = [] →
      ∃ sections, read raws = .ok sections ∧ entries? own.name sections = some own.entries) ∧
    (unnamed 1 raws ≠ [] → read raws = .error (.badLines (unnamed 1 raws))) := by
  rw [List.forall_mem_append, List.forall_mem_cons] at hplain
  rw [List.flatMap_append, List.flatMap_cons] at hraws
  obtain ⟨first, rest, rfl, hfirst, hrest⟩ := exists_append_of_forall₂ hraws
  obtain ⟨middle, last, rfl, hmiddle, hlast⟩ := exists_append_of_forall₂ hrest
  have hsound : ({} : Reader).IsSound := Reader.isSound_of_entry_eq_none rfl
  obtain ⟨r₁, hpasses₁⟩ := Reader.exists_passes_sections hplain.1 hfirst hsound 1
  obtain ⟨r₂, hpasses₂, hvalues₂⟩ := Reader.exists_passes_section hplain.2.1 hmiddle
    hpasses₁.sound (1 + first.length)
  obtain ⟨r₃, hpasses₃⟩ := Reader.exists_passes_sections hplain.2.2 hlast hpasses₂.sound
    (1 + first.length + middle.length)
  have hpasses : ({} : Reader).Passes 1 (first ++ (middle ++ last))
      (before.map (·.name) ++ own.name :: after.map (·.name)) r₃ := by
    refine (hpasses₁.mono ?_).append ((hpasses₂.mono ?_).append (hpasses₃.mono ?_))
    · exact List.subset_append_left ..
    · exact List.cons_subset.2 ⟨List.mem_append_right _ (List.mem_cons_self ..), List.nil_subset _⟩
    · exact fun name hname => List.mem_append_right _ (List.mem_cons_of_mem _ hname)
  rw [read_eq hpasses]
  refine ⟨fun hnil => ?_, fun hne => if_neg hne⟩
  have habsent : ∀ name, (∀ s ∈ before ++ after, s.name ≠ name) →
      name ∉ before.map (·.name) ∧ name ∉ after.map (·.name) := by
    intro name h
    rw [List.forall_mem_append] at h
    simpa using h
  obtain ⟨hbefore, hafter⟩ := habsent own.name fun s hs => (hothers s hs).1
  obtain ⟨hbefore', hafter'⟩ := habsent commonSection fun s hs => (hothers s hs).2
  have hcommon : commonSection ∉ before.map (·.name) ++ own.name :: after.map (·.name) := by
    rw [List.mem_append, List.mem_cons, not_or, not_or]
    exact ⟨hbefore', Ne.symm hown, hafter'⟩
  -- No other section has the name, so the values are those that the section itself left there.
  refine ⟨r₃.sections, if_pos hnil, ?_⟩
  rw [Reader.entries?_sections (hpasses.frame commonSection hcommon),
    hpasses₃.frame own.name hafter, hvalues₂ htidy (hpasses₁.frame own.name hbefore)]

end Translucency.Ini
