import Translucency.Proofs.Act
import Translucency.Proofs.Json.Numbers
import Translucency.Proofs.Json.Strings
import Translucency.Text.Pieces

/-!
# Objects as a script writes them

A script writes an object on one line without blanks, and only scalars stand in it. Reading goes by
one step for each member (`readMembers_comma`). So an object reads back as its members put into a
map one after the other (`read_objectText`), and an object that was cut off within a string is
malformed (`read_of_cut`), whatever stands before the cut. An object of scalars takes one level, so
none of this depends on the room.
-/

namespace Translucency.Json

open Text

/-! ## Writing -/

/-- What a script writes as a member of an object. -/
inductive Item where
  | text (s : List Char)
  | null
  | bool (b : Bool)
  | number (n : NumberText)

/-- The text of an item. -/
def Item.written : Item → List Char
  | text s => '"' :: (minimal s ++ ['"'])
  | null => ['n', 'u', 'l', 'l']
  | bool true => ['t', 'r', 'u', 'e']
  | bool false => ['f', 'a', 'l', 's', 'e']
  | number n => n.text

/-- The value that an item is read as. -/
def Item.value : Item → Value
  | text s => .text (String.ofList s)
  | null => .null
  | bool b => .bool b
  | number n => n.value

/-- A member of an object: its name and what stands under it. -/
abbrev Member := List Char × Item

/-- The text of a member up to what stands under it. -/
def nameText (name : List Char) : List Char := '"' :: (minimal name ++ ['"', ':'])

/-- The text of a member. -/
def memberText (m : Member) : List Char := nameText m.1 ++ m.2.written

/-- The text of an object. -/
def objectText (members : List Member) : List Char :=
  '\x7b' :: (join [','] (members.map memberText) ++ ['\x7d'])

/-- Members put into a map, in order. -/
def collect (before : List (Value × Value)) (members : List Member) : List (Value × Value) :=
  members.foldl (fun entries m => Value.put (.text (String.ofList m.1)) m.2.value entries) before

@[simp] theorem Item.value_text (s : List Char) : (text s).value = .text (String.ofList s) := rfl

@[simp] theorem Item.value_null : null.value = .null := rfl

@[simp] theorem Item.value_bool (b : Bool) : (bool b).value = .bool b := rfl

@[simp] theorem Item.value_number (n : NumberText) : (number n).value = n.value := rfl

@[simp] theorem sameKey_text (s t : String) : (Value.text s).sameKey (.text t) = (s == t) := rfl

/-- Under a name of its own a member is put at the end. -/
theorem put_of_forall_ne {name : String} {entries : List (Value × Value)}
    (h : ∀ e ∈ entries, ∃ other, e.1 = .text other ∧ other ≠ name) (v : Value) :
    Value.put (.text name) v entries = entries ++ [(.text name, v)] := by
  induction entries with
  | nil => rfl
  | cons e rest ih =>
    obtain ⟨⟨other, he, hne⟩, hrest⟩ := List.forall_mem_cons.1 h
    obtain ⟨key, old⟩ := e
    simp only at he
    subst he
    simp [Value.put, hne, ih hrest]

/-- Members with different names are put into a map one after the other. -/
theorem collect_of_nodup {members : List Member} (h : (members.map (·.1)).Nodup) :
    collect [] members = members.map fun m => (.text (String.ofList m.1), m.2.value) := by
  -- What is in the map already is carried along, as the next name has to differ from it.
  have hcollect : ∀ (members done : List Member), ((done ++ members).map (·.1)).Nodup →
      collect (done.map fun m => (.text (String.ofList m.1), m.2.value)) members =
        (done ++ members).map fun m => (.text (String.ofList m.1), m.2.value) := by
    intro members
    induction members with
    | nil =>
      intro done _
      rw [List.append_nil]
      rfl
    | cons m rest ih =>
      intro done h
      have hdistinct : ∀ d ∈ done, d.1 ≠ m.1 := by
        intro d hd heq
        rw [List.map_append, List.map_cons, List.nodup_append] at h
        exact h.2.2 d.1 (List.mem_map_of_mem hd) m.1 (List.mem_cons_self ..) heq
      have hothers : ∀ e ∈ done.map fun m => (Value.text (String.ofList m.1), m.2.value),
          ∃ other, e.1 = .text other ∧ other ≠ String.ofList m.1 := by
        intro e he
        obtain ⟨d, hd, rfl⟩ := List.mem_map.1 he
        exact ⟨_, rfl, fun heq => hdistinct d hd (String.ofList_injective heq)⟩
      have hnext := ih (done ++ [m]) (by simpa using h)
      rw [collect, List.foldl_cons, put_of_forall_ne hothers, ← collect]
      simpa using hnext
  exact hcollect members [] h

/-- What is found under a name in a map is what the first member of that name has. -/
theorem lookup?_map (name : String) (members : List Member) :
    Value.lookup? (.text name) (members.map fun m => (.text (String.ofList m.1), m.2.value)) =
      (members.find? (·.1 == name.toList)).map (·.2.value) := by
  induction members with
  | nil => rfl
  | cons m rest ih =>
    have hsame : (String.ofList m.1 == name) = (m.1 == name.toList) := by
      rw [Bool.eq_iff_iff, beq_iff_eq, beq_iff_eq]
      constructor
      · rintro rfl
        rw [String.toList_ofList]
      · intro h
        rw [h, String.ofList_toList]
    rw [List.map_cons, Value.lookup?, sameKey_text, hsame, List.find?_cons, ih]
    cases m.1 == name.toList <;> rfl

/-! ## Reading an item -/

/-- Whether a text goes on with what may stand behind an item. -/
def Closes (s : List Char) : Prop := s.head? = some ',' ∨ s.head? = some '\x7d'

theorem Closes.ends {s : List Char} (h : Closes s) : Ends s := by
  intro c hc
  obtain h | h := h
  · rw [h] at hc
    cases hc
    decide
  · rw [h] at hc
    cases hc
    decide

theorem scalar?_written (item : Item) {s : List Char} (hs : Closes s) :
    scalar? (item.written ++ s) = some (item.value, s) := by
  cases item with
  | text t =>
    have hread := string?_minimal t s
    simp only [Item.written, List.cons_append, List.append_assoc, List.nil_append, scalar?]
    rw [hread]
    rfl
  | null => rfl
  | bool b => cases b <;> rfl
  | number n => exact n.scalar?_append hs.ends

/-- An item starts with neither a bracket nor a blank. -/
theorem exists_written_eq_cons (item : Item) :
    ∃ c rest, item.written = c :: rest ∧ c ≠ '[' ∧ c ≠ '\x7b' ∧ isSpace c = false := by
  cases item with
  | text t => exact ⟨'"', _, rfl, by decide, by decide, by decide⟩
  | null => exact ⟨'n', _, rfl, by decide, by decide, by decide⟩
  | bool b =>
    cases b with
    | true => exact ⟨'t', _, rfl, by decide, by decide, by decide⟩
    | false => exact ⟨'f', _, rfl, by decide, by decide, by decide⟩
  | number n =>
    obtain ⟨c, rest, hwhole⟩ := n.exists_whole_eq_cons
    have hc : c.isDigit = true :=
      n.whole_digits c (by rw [hwhole]; exact List.mem_cons_self ..)
    rw [Item.written, NumberText.text, hwhole]
    cases n.negative with
    | true => exact ⟨'-', _, rfl, by decide, by decide, by decide⟩
    | false =>
      have hne : ∀ d : Char, d.isDigit = false → c ≠ d := by
        rintro d hd rfl
        rw [hc] at hd
        cases hd
      refine ⟨c, _, rfl, hne _ (by decide), hne _ (by decide), ?_⟩
      simp [isSpace, hne]

/-- An item is read to its end as a value, being no list and no object. -/
theorem readValue_written (item : Item) {s : List Char} (hs : Closes s) (room fuel : Nat) :
    readValue room (fuel + 1) (item.written ++ s) = .ok (item.value, s) := by
  have hscalar := scalar?_written item hs
  obtain ⟨c, rest, hwritten, hlist, hmap, -⟩ := exists_written_eq_cons item
  rw [hwritten, List.cons_append] at hscalar ⊢
  rw [readValue, hscalar, orMalformed]
  · rintro rest' h
    cases h
    exact hlist rfl
  · rintro rest' h
    cases h
    exact hmap rfl

/-! ## Reading members -/

theorem skipSpaces_cons {c : Char} (hc : isSpace c = false) (s : List Char) :
    skipSpaces (c :: s) = c :: s := by
  simp [skipSpaces, hc]

/-- A name is read, and then what stands under it. -/
theorem readMembers_nameText (room fuel : Nat) (before : List (Value × Value))
    (name s : List Char) :
    readMembers room (fuel + 1) before (nameText name ++ s) =
      (readValue room fuel (skipSpaces s) >>= fun r =>
        match skipSpaces r.2 with
        | ',' :: rest =>
          readMembers room fuel (Value.put (.text (String.ofList name)) r.1 before)
            (skipSpaces rest)
        | '\x7d' :: rest =>
          return (Value.put (.text (String.ofList name)) r.1 before, rest)
        | _ => .error .malformed) := by
  rw [nameText, List.cons_append, List.append_assoc, List.cons_append, List.cons_append,
    List.nil_append, readMembers, string?_minimal]
  rfl

theorem readMembers_comma (room fuel : Nat) (before : List (Value × Value)) (m : Member)
    (s : List Char) :
    readMembers room (fuel + 2) before (memberText m ++ ',' :: '"' :: s) =
      readMembers room (fuel + 1) (collect before [m]) ('"' :: s) := by
  have hvalue := readValue_written m.2 (s := ',' :: '"' :: s) (.inl rfl) room fuel
  obtain ⟨c, rest, hwritten, -, -, hc⟩ := exists_written_eq_cons m.2
  rw [memberText, List.append_assoc]
  rw [hwritten, List.cons_append] at hvalue ⊢
  rw [readMembers_nameText, skipSpaces_cons hc, hvalue]
  rfl

theorem readMembers_close (room fuel : Nat) (before : List (Value × Value)) (m : Member)
    (s : List Char) :
    readMembers room (fuel + 2) before (memberText m ++ '\x7d' :: s) =
      .ok (collect before [m], s) := by
  have hvalue := readValue_written m.2 (s := '\x7d' :: s) (.inr rfl) room fuel
  obtain ⟨c, rest, hwritten, -, -, hc⟩ := exists_written_eq_cons m.2
  rw [memberText, List.append_assoc]
  rw [hwritten, List.cons_append] at hvalue ⊢
  rw [readMembers_nameText, skipSpaces_cons hc, hvalue]
  rfl

theorem exists_join_eq_cons (m : Member) (rest : List Member) :
    ∃ t, join [','] ((m :: rest).map memberText) = '"' :: t := by
  cases rest with
  | nil => exact ⟨_, rfl⟩
  | cons next rest => exact ⟨_, rfl⟩

/-- The members of an object are put into the map, in order. -/
theorem readMembers_join {members : List Member} (hne : members ≠ []) (room : Nat) {fuel : Nat}
    (hfuel : members.length < fuel) (before : List (Value × Value)) (s : List Char) :
    readMembers room fuel before (join [','] (members.map memberText) ++ '\x7d' :: s) =
      .ok (collect before members, s) := by
  induction members generalizing fuel before with
  | nil => exact absurd rfl hne
  | cons m rest ih =>
    -- One round goes to this member and one to what comes after it.
    obtain ⟨fuel, rfl⟩ : ∃ k, fuel = k + 2 := ⟨fuel - 2, by
      rw [List.length_cons] at hfuel
      omega⟩
    cases rest with
    | nil => exact readMembers_close room fuel before m s
    | cons next rest =>
      obtain ⟨t, hjoin⟩ := exists_join_eq_cons next rest
      have hlength : (next :: rest).length < fuel + 1 := by
        simp only [List.length_cons] at hfuel ⊢
        omega
      have hnext := ih (by simp) hlength (collect before [m])
      have htext : join [','] ((m :: next :: rest).map memberText) =
          memberText m ++ ',' :: join [','] ((next :: rest).map memberText) := by
        simp [join]
      rw [htext, hjoin] at *
      rw [List.append_assoc, List.cons_append, List.cons_append] at *
      rw [readMembers_comma]
      exact hnext

theorem length_le_length_join (members : List Member) :
    members.length ≤ (join [','] (members.map memberText)).length := by
  induction members with
  | nil => exact Nat.zero_le _
  | cons m rest ih =>
    have hpos : 0 < (memberText m).length := by simp [memberText, nameText]
    cases rest with
    | nil => exact hpos
    | cons next rest =>
      have hlength : (join [','] ((m :: next :: rest).map memberText)).length =
          (memberText m).length + 1 + (join [','] ((next :: rest).map memberText)).length := by
        simp [join]
        omega
      rw [hlength, List.length_cons]
      omega

/-! ## Reading an object -/

/-- What opens an object is followed by a name or by the end of the text. -/
theorem readValue_brace {s : List Char} (hs : s.head? ≠ some '\x7d')
    (hspace : skipSpaces s = s) (room fuel : Nat) :
    readValue (room + 1) (fuel + 1) ('\x7b' :: s) =
      readMembers room fuel [] s >>= fun r => .ok (.map r.1, r.2) := by
  rw [readValue]
  simp only [hspace]
  split
  · exact absurd rfl hs
  · rfl

/-- **An object reads back** as its members put into a map. -/
theorem read_objectText {members : List Member} (hne : members ≠ []) (room : Nat) :
    read room (objectText members) = .ok (.map (collect [] members)) := by
  have hlength := length_le_length_join members
  obtain ⟨m, rest, rfl⟩ := List.exists_cons_of_ne_nil hne
  obtain ⟨t, hjoin⟩ := exists_join_eq_cons m rest
  have hmembers : ∀ fuel, (m :: rest).length < fuel →
      readMembers room fuel [] ('"' :: (t ++ ['\x7d'])) = .ok (collect [] (m :: rest), []) := by
    intro fuel hfuel
    have hread := readMembers_join hne room hfuel [] []
    rw [hjoin] at hread
    exact hread
  have htext : objectText (m :: rest) = '\x7b' :: '"' :: (t ++ ['\x7d']) := by
    rw [objectText, hjoin, List.cons_append]
  rw [hjoin] at hlength
  rw [read, htext, skipSpaces_cons (by decide), readValue_brace (by simp)
    (skipSpaces_cons (by decide) _), hmembers _ (by simp at hlength ⊢; omega)]
  rfl

/-! ## Objects that were cut off -/

/-- The members of an object up to somewhere within the string under a name, before its closing
quote. -/
def cutMembers (before : List Member) (name cut : List Char) : List Char :=
  before.flatMap (fun m => memberText m ++ [',']) ++ (nameText name ++ '"' :: cut)

/-- An object up to there. -/
def cutText (before : List Member) (name cut : List Char) : List Char :=
  '\x7b' :: cutMembers before name cut

theorem exists_cutMembers_eq_cons (before : List Member) (name cut : List Char) :
    ∃ t, cutMembers before name cut = '"' :: t := by
  cases before with
  | nil => exact ⟨_, rfl⟩
  | cons m rest => exact ⟨_, rfl⟩

/-- A name with a string under it that was cut off does not read. -/
theorem readMembers_of_cut {s cut : List Char} (h : cut <+: minimal s) (before : List Member)
    (name : List Char) (room fuel : Nat) (entries : List (Value × Value)) :
    readMembers room fuel entries (cutMembers before name cut) = .error .malformed := by
  induction before generalizing fuel entries with
  | nil =>
    cases fuel with
    | zero => rfl
    | succ fuel =>
      have hvalue : readValue room fuel ('"' :: cut) = .error .malformed := by
        cases fuel with
        | zero => rfl
        | succ fuel => simp [readValue, scalar?, string?_of_prefix h, orMalformed]
      rw [cutMembers, List.flatMap_nil, List.nil_append, readMembers_nameText,
        skipSpaces_cons (by decide), hvalue]
      rfl
  | cons m rest ih =>
    obtain ⟨t, hnext⟩ := exists_cutMembers_eq_cons rest name cut
    have hsplit : cutMembers (m :: rest) name cut = memberText m ++ ',' :: '"' :: t := by
      rw [← hnext]
      simp [cutMembers]
    rw [hsplit]
    -- With fuel for less than two steps not even the first member is read.
    obtain _ | _ | fuel := fuel
    · rfl
    · obtain ⟨c, rest', hwritten, -, -, hc⟩ := exists_written_eq_cons m.2
      rw [memberText, List.append_assoc, hwritten, List.cons_append, readMembers_nameText,
        skipSpaces_cons hc]
      rfl
    · rw [readMembers_comma, ← hnext]
      exact ih (fuel + 1) _

/-- **An object that was cut off within a string is malformed.** -/
theorem read_of_cut {s cut : List Char} (h : cut <+: minimal s) (before : List Member)
    (name : List Char) (room : Nat) : read room (cutText before name cut) = .error .malformed := by
  have hmembers := readMembers_of_cut h before name room
  obtain ⟨t, hnext⟩ := exists_cutMembers_eq_cons before name cut
  rw [hnext] at hmembers
  rw [read, cutText, hnext, skipSpaces_cons (by decide), readValue_brace (by simp)
    (skipSpaces_cons (by decide) _), hmembers]
  rfl

end Translucency.Json
