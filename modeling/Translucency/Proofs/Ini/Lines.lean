import Translucency.Ini
import Translucency.Proofs.Act
import Translucency.Proofs.Text.Lines
import Translucency.Proofs.Text.Trim

/-!
# Reading an ini file line by line

What a line does to the tables is told here for the lines that make up a written file: an empty
line, a header, and an entry that is not indented and does not look like a comment or a header.
Tables are looked at through their values (`Reader.values`), where it does not show that empty lines
are kept with the entry before them.

Of every such line the same is said (`Reader.Passes`): it is read, the values of one section only
may change, the entry that a later line could continue is there, and the line is remembered as a bad
one exactly if it starts with a delimiter, for then the entry has no name. This adds up over lines
that follow one another (`Reader.Passes.append`).
-/

namespace Translucency.Ini

open Text

/-! ## Values -/

/-- An empty line at the end of a value does not show. -/
theorem value_append_empty (lines : List (List Char)) : value (lines ++ [[]]) = value lines := by
  by_cases hlines : lines = []
  · rw [hlines]
    rfl
  · rw [value, value, join_append ['\n'] hlines (List.cons_ne_nil [] []), join, List.append_nil,
      trimRight_append_blanks (List.forall_mem_singleton.2 rfl)]

/-- A value on one line is that line, without the blanks at its end. -/
theorem value_singleton (line : List Char) : value [line] = String.ofList (trimRight line) := rfl

/-- The entries of a section with their values. -/
def valuesOf (es : Entries) : List (String × String) := es.map fun e => (e.1, value e.2)

/-- Lengthening an entry by an empty line does not change the values. -/
theorem valuesOf_alter_empty {es : Entries} {name : String} {lines : List (List Char)}
    (h : es.lookup name = some lines) :
    valuesOf (alter name (fun lines => lines.getD [] ++ [[]]) es) = valuesOf es := by
  induction es with
  | nil => cases h
  | cons e es ih =>
    rw [List.lookup_cons] at h
    by_cases he : name = e.1
    · rw [alter, if_pos he.symm]
      simp [valuesOf, value_append_empty]
    · rw [beq_false_of_ne he] at h
      rw [alter, if_neg (Ne.symm he)]
      exact congrArg ((e.1, value e.2) :: ·) (ih h)

/-- A new name is added at the end. -/
theorem valuesOf_alter_new {es : Entries} {name : String} {line : List Char}
    (h : name ∉ (valuesOf es).map (·.1)) :
    valuesOf (alter name (fun _ => [line]) es) = valuesOf es ++ [(name, value [line])] := by
  induction es with
  | nil => rfl
  | cons e es ih =>
    rw [valuesOf, List.map_cons, List.map_cons, List.mem_cons, not_or] at h
    rw [alter, if_neg (Ne.symm h.1)]
    exact congrArg ((e.1, value e.2) :: ·) (ih h.2)

namespace Reader

/-- The entries of a section with their values, as far as they have been read. -/
def values (r : Reader) (name : String) : Option (List (String × String)) :=
  (r.sections.lookup name).map valuesOf

/-- Whether the entry that lines may continue is there. -/
def IsSound (r : Reader) : Prop :=
  ∀ current entry, r.current = some current → r.entry = some entry →
    ∃ es lines, r.sections.lookup current = some es ∧ es.lookup entry = some lines

theorem isSound_of_entry_eq_none {r : Reader} (h : r.entry = none) : r.IsSound := by
  intro current entry _ hentry
  rw [h] at hentry
  cases hentry

/-! ## What is done to the tables -/

theorem values_enter (r : Reader) (name other : String) :
    (r.enter name).values other =
      if other = name then some ((r.values name).getD []) else r.values other := by
  unfold values enter
  rw [lookup_alter]
  split
  · cases r.sections.lookup name <;> rfl
  · rfl

theorem values_put (r : Reader) (current name : String) (line : List Char) (other : String) :
    (r.put current name line).values other =
      if other = current then
        some (valuesOf (alter name (fun _ => [line]) ((r.sections.lookup current).getD [])))
      else r.values other := by
  unfold values put
  rw [lookup_alter]
  split <;> rfl

theorem isSound_put {r : Reader} {current : String} (hcurrent : r.current = some current)
    (name : String) (line : List Char) : (r.put current name line).IsSound := by
  intro c e hc he
  obtain rfl : current = c := Option.some.inj (hcurrent.symm.trans hc)
  obtain rfl : name = e := Option.some.inj he
  refine ⟨alter name (fun _ => [line]) ((r.sections.lookup current).getD []), [line], ?_, ?_⟩
  · rw [put, lookup_alter, if_pos rfl]
  · rw [lookup_alter, if_pos rfl]

/-- An entry of a new name comes after those that the section has. -/
theorem values_put_new {r : Reader} {current name : String} {line : List Char}
    {vs : List (String × String)} (hvalues : r.values current = some vs)
    (hnew : name ∉ vs.map (·.1)) :
    (r.put current name line).values current = some (vs ++ [(name, value [line])]) := by
  obtain ⟨es, hes, rfl⟩ := Option.map_eq_some_iff.1 hvalues
  rw [values_put, if_pos rfl, hes, Option.getD_some, valuesOf_alter_new hnew]

theorem values_extend_empty {r : Reader} (hsound : r.IsSound) (name : String) :
    (r.extend []).values name = r.values name := by
  unfold extend
  split
  · next current entry hcurrent hentry =>
    obtain ⟨es, lines, hes, hlines⟩ := hsound current entry hcurrent hentry
    unfold values
    rw [lookup_alter]
    split
    · next hname =>
      rw [hname, hes, Option.getD_some, Option.map_some, valuesOf_alter_empty hlines,
        Option.map_some]
    · rfl
  · rfl

theorem isSound_extend_empty {r : Reader} (hsound : r.IsSound) : (r.extend []).IsSound := by
  unfold extend
  split
  · next current entry hcurrent hentry =>
    intro c e hc he
    obtain rfl : current = c := Option.some.inj (hcurrent.symm.trans hc)
    obtain rfl : entry = e := Option.some.inj (hentry.symm.trans he)
    exact ⟨_, _, (lookup_alter ..).trans (if_pos rfl), (lookup_alter ..).trans (if_pos rfl)⟩
  · exact hsound

theorem bad_extend (r : Reader) (line : List Char) : (r.extend line).bad = r.bad := by
  unfold extend
  split <;> rfl

theorem steps_append (r : Reader) (number : Nat) (lines more : List (List Char)) :
    r.steps number (lines ++ more) =
      (r.steps number lines).bind fun r' => r'.steps (number + lines.length) more := by
  induction lines generalizing r number with
  | nil => rfl
  | cons line rest ih =>
    rw [List.cons_append, steps, steps]
    cases r.step number line with
    | error fault => rfl
    | ok r' =>
      rw [ok_bind, ok_bind, ih, List.length_cons, Nat.add_right_comm, Nat.add_assoc]

end Reader

/-! ## Lines without a name -/

/-- The lines that start with a delimiter, by number, the first line having the number given. -/
def unnamed (number : Nat) (lines : List (List Char)) : List (Nat × List Char) :=
  ((lines.zipIdx number).filter fun e => e.1.head?.any isDelimiter).map Prod.swap

theorem unnamed_append (number : Nat) (lines more : List (List Char)) :
    unnamed number (lines ++ more) =
      unnamed number lines ++ unnamed (number + lines.length) more := by
  rw [unnamed, List.zipIdx_append, List.filter_append, List.map_append]
  rfl

theorem unnamed_singleton (number : Nat) (line : List Char) :
    unnamed number [line] = if line.head?.any isDelimiter then [(number, line)] else [] := by
  rw [unnamed, List.zipIdx_singleton, List.filter_singleton]
  cases line.head?.any isDelimiter <;> rfl

theorem unnamed_eq_nil_iff {raws lines : List (List Char)} (hraws : List.Forall₂ IsRaw raws lines)
    (number : Nat) :
    unnamed number raws = [] ↔ ∀ line ∈ lines, line.head?.any isDelimiter = false := by
  induction hraws generalizing number with
  | nil => simp [unnamed]
  | @cons raw line raws lines hraw _ ih =>
    have hhead : raw.head?.any isDelimiter = line.head?.any isDelimiter := by
      obtain rfl | rfl := hraw
      · rfl
      · cases line <;> rfl
    rw [← List.singleton_append, unnamed_append, List.append_eq_nil_iff, ih, unnamed_singleton,
      hhead, List.forall_mem_cons]
    cases line.head?.any isDelimiter <;> simp

/-- Whether a character may be the first of an entry: it does not indent the line, and does not make
a comment or a header of it. -/
def startsEntry (c : Char) : Bool := !isBlank c && c != '#' && c != ';' && c != '['

theorem startsEntry_iff {c : Char} :
    startsEntry c = true ↔ isBlank c = false ∧ c ≠ '#' ∧ c ≠ ';' ∧ c ≠ '[' := by
  simp [startsEntry, and_assoc]

/-! ## Passing lines -/

namespace Reader

/-- Lines are read from some number on, in a way that changes at most the values of the sections
`touched` and counts just the lines without a name as bad ones. -/
structure Passes (r : Reader) (number : Nat) (lines : List (List Char)) (touched : List String)
    (r' : Reader) : Prop where
  steps_eq : r.steps number lines = .ok r'
  sound : r'.IsSound
  bad : r'.bad = (unnamed number lines).reverse ++ r.bad
  frame : ∀ name ∉ touched, r'.values name = r.values name

variable {r r' r'' : Reader} {number : Nat} {lines more : List (List Char)}
  {touched touched' : List String}

theorem Passes.nil (hsound : r.IsSound) : r.Passes number [] touched r :=
  ⟨rfl, hsound, rfl, fun _ _ => rfl⟩

theorem Passes.mono (h : r.Passes number lines touched r') (hsub : touched ⊆ touched') :
    r.Passes number lines touched' r' :=
  { h with frame := fun name hname => h.frame name fun hmem => hname (hsub hmem) }

theorem Passes.append (h : r.Passes number lines touched r')
    (h' : r'.Passes (number + lines.length) more touched r'') :
    r.Passes number (lines ++ more) touched r'' where
  steps_eq := by
    rw [steps_append, h.steps_eq]
    exact h'.steps_eq
  sound := h'.sound
  bad := by rw [h'.bad, h.bad, unnamed_append, List.reverse_append, List.append_assoc]
  frame name hname := (h'.frame name hname).trans (h.frame name hname)

/-- One line passes by its step. -/
theorem Passes.of_step {line : List Char} (hstep : r.step number line = .ok r')
    (hsound : r'.IsSound)
    (hbad : r'.bad = if line.head?.any isDelimiter then (number, line) :: r.bad else r.bad)
    (hframe : ∀ name ∉ touched, r'.values name = r.values name) :
    r.Passes number [line] touched r' where
  steps_eq := by
    rw [steps, hstep, ok_bind]
    rfl
  sound := hsound
  bad := by
    rw [hbad, unnamed_singleton]
    split <;> rfl
  frame := hframe

/-! ## Empty lines -/

theorem step_empty (r : Reader) (number : Nat) {raw : List Char} (hraw : IsRaw raw []) :
    r.step number raw = .ok (r.extend []) := by
  obtain rfl | rfl := hraw <;> rfl

/-- An empty line passes and changes no values. -/
theorem passes_empty (hsound : r.IsSound) (number : Nat) {raw : List Char} (hraw : IsRaw raw []) :
    r.Passes number [raw] touched (r.extend []) := by
  refine .of_step (step_empty r number hraw) (isSound_extend_empty hsound) ?_ ?_
  · rw [bad_extend]
    obtain rfl | rfl := hraw <;> rfl
  · exact fun name _ => values_extend_empty hsound name

/-! ## Headers and entries -/

section

variable {c : Char} {s raw : List Char}

/-- A raw line and its line start with the same character. -/
theorem head?_of_isRaw (hraw : IsRaw raw (c :: s)) : raw.head? = some c := by
  obtain rfl | rfl := hraw <;> rfl

theorem trim_of_isRaw (hraw : IsRaw raw (c :: s)) (hc : isBlank c = false) :
    trim raw = c :: trimRight s := by
  have hleft : trimLeft raw = raw := trimLeft_of_head fun d hd => by
    rw [head?_of_isRaw hraw, Option.mem_some_iff] at hd
    exact hd ▸ hc
  rw [trim, hleft]
  obtain rfl | rfl := hraw
  · exact trimRight_cons hc s
  · rw [trimRight_append_blanks (List.forall_mem_singleton.2 rfl), trimRight_cons hc]

theorem indent_of_isRaw (hraw : IsRaw raw (c :: s)) (hc : isBlank c = false) :
    (raw.takeWhile isBlank).length = 0 := by
  obtain ⟨t, rfl⟩ := List.head?_eq_some_iff.1 (head?_of_isRaw hraw)
  rw [List.takeWhile_cons_of_neg (by rw [hc]; exact Bool.false_ne_true), List.length_nil]

/-- A line that is not indented continues no entry. -/
theorem continues_zero (r : Reader) : r.continues 0 = false := by
  rw [continues, decide_eq_false (Nat.not_lt_zero r.indent), Bool.and_false]

/-- A header turns to its section. -/
theorem step_header (hraw : IsRaw raw ('[' :: s)) {name : String}
    (hheader : header? ('[' :: trimRight s) = some name) (r : Reader) (number : Nat) :
    r.step number raw = .ok ({ r with indent := 0 }.enter name) := by
  have hcomment : isComment ('[' :: trimRight s) = false := rfl
  simp only [step, trim_of_isRaw hraw (by decide), indent_of_isRaw hraw (by decide),
    continues_zero, hcomment, hheader, List.isEmpty_cons, Bool.false_eq_true, if_false]

/-- An entry is put into the section at hand, or counts as a bad line for want of a name. -/
theorem step_entry (hraw : IsRaw raw (c :: s)) (hc : startsEntry c = true) {name : String}
    {value : List Char} (hentry : entry? (c :: trimRight s) = some (name, value)) {r : Reader}
    {current : String} (hcurrent : r.current = some current) (number : Nat) :
    r.step number raw =
      if name.isEmpty then
        .ok { r with indent := 0, bad := (number, raw) :: r.bad, entry := none }
      else .ok ({ r with indent := 0 }.put current name value) := by
  obtain ⟨hblank, hhash, hsemicolon, hbracket⟩ := startsEntry_iff.1 hc
  have hcomment : isComment (c :: trimRight s) = false := by
    simp [isComment, hhash, hsemicolon]
  have hheader : header? (c :: trimRight s) = none := by
    rw [header?]
    rintro _ ⟨⟩
    exact hbracket rfl
  simp only [step, trim_of_isRaw hraw hblank, indent_of_isRaw hraw hblank, continues_zero, hcomment,
    hheader, hcurrent, hentry, List.isEmpty_cons, Bool.false_eq_true, if_false]
  rfl

end

end Reader

end Translucency.Ini
