import Mathlib.Data.List.TakeWhile
import Translucency.Proofs.Json.Objects
import Translucency.Proofs.Text.Lines

/-!
# Written objects and lines

An object is written without line feeds, but that does not make it one line for whoever splits a
text by all line ends. Of the characters at which a line is split, the least escaping covers those
below the blank; the three others, the raw line ends, it leaves alone. An object without those stays
on its line (`isLine_objectText`). An object with one of them is cut within the first string that
has one (`takeWhile_objectText`), so that what is left of it does not read.
-/

namespace Translucency

namespace Text

/-! ## Raw line ends -/

/-- The characters at which a line is split though a script does not escape them. -/
def isRawLineEnd (c : Char) : Bool := c == '\u0085' || c == '\u2028' || c == '\u2029'

/-- Whether a text holds none of them. -/
def IsPlain (s : List Char) : Prop := ∀ c ∈ s, isRawLineEnd c = false

instance (s : List Char) : Decidable (IsPlain s) := List.decidableBAll _ s

theorem isLineEnd_of_isRawLineEnd {c : Char} (h : isRawLineEnd c = true) :
    isLineEnd c = true := by
  simp only [isRawLineEnd, Bool.or_eq_true, beq_iff_eq] at h
  obtain (rfl | rfl) | rfl := h <;> rfl

/-- Any other character at which a line is split is a control character. -/
theorem isLineEnd_eq_false {c : Char} (h : isRawLineEnd c = false) (hc : 0x20 ≤ c.toNat) :
    isLineEnd c = false := by
  cases hend : isLineEnd c with
  | false => rfl
  | true =>
    simp only [isLineEnd, Bool.or_eq_true, beq_iff_eq] at hend
    obtain ((((((((rfl | rfl) | rfl) | rfl) | rfl) | rfl) | rfl) | rfl) | rfl) | rfl := hend
    all_goals first
      | exact absurd hc (by decide)
      | cases h

end Text

namespace Json

open Text

/-! ## Written strings -/

/-- A raw line end is written as itself. -/
theorem minimalChar_of_isRawLineEnd {c : Char} (h : isRawLineEnd c = true) :
    minimalChar c = [c] := by
  simp only [isRawLineEnd, Bool.or_eq_true, beq_iff_eq] at h
  obtain (rfl | rfl) | rfl := h <;> rfl

theorem isLineEnd_of_escaped? {c e : Char} (h : escaped? e = some c) : isLineEnd e = false := by
  unfold escaped? at h
  split at h
  all_goals first
    | decide
    | cases h

theorem isLine_hexText (width n : Nat) : IsLine (hexText width n) := by
  have hall : ∀ k < 16, isLineEnd (hexDigit k) = false := by decide
  intro c hc
  obtain ⟨place, -, rfl⟩ := List.mem_map.1 hc
  exact hall _ (Nat.mod_lt _ (by decide))

theorem isLine_minimalChar {c : Char} (h : isRawLineEnd c = false) : IsLine (minimalChar c) := by
  obtain ⟨e, he, hc⟩ | ⟨-, hc⟩ | ⟨hblank, hc⟩ := minimalChar_cases c
  · have hslash : isLineEnd '\\' = false := by decide
    simp [hc, hslash, isLineEnd_of_escaped? he]
  · rw [hc, unitText, isLine_cons, isLine_cons]
    exact ⟨by decide, by decide, isLine_hexText 4 c.toNat⟩
  · simp [hc, isLineEnd_eq_false h hblank]

theorem isLine_minimal {s : List Char} (h : IsPlain s) : IsLine (minimal s) := by
  intro d hd
  obtain ⟨c, hc, hd⟩ := List.mem_flatMap.1 hd
  exact isLine_minimalChar (h c hc) d hd

/-! ## Written objects -/

/-- Whether an item holds no raw line end. -/
def Item.IsPlain : Item → Prop
  | text s => Text.IsPlain s
  | _ => True

theorem NumberText.isLine_text (n : NumberText) : IsLine n.text := by
  have hwhole := isLine_of_digits n.whole_digits
  have hminus : isLineEnd '-' = false := by decide
  have hplus : isLineEnd '+' = false := by decide
  have hpoint : isLineEnd '.' = false := by decide
  have he : isLineEnd 'e' = false := by decide
  have hfraction : IsLine n.fractionText := by
    unfold NumberText.fractionText
    split
    · next ds h => simp [hpoint, isLine_of_digits (n.fraction_digits ds h).2]
    · exact isLine_nil
  have hexponent : IsLine n.exponentText := by
    unfold NumberText.exponentText
    split
    · next negative ds h =>
      have hds := isLine_of_digits (n.exponent_digits _ h).2
      cases negative <;> simp [he, hminus, hplus, hds]
    · exact isLine_nil
  unfold NumberText.text
  cases n.negative <;> simp [hminus, hwhole, hfraction, hexponent]

theorem Item.IsPlain.isLine_written {item : Item} (h : item.IsPlain) : IsLine item.written := by
  have hquote : isLineEnd '"' = false := by decide
  cases item with
  | text s => simp [Item.written, hquote, isLine_minimal h]
  | null => decide
  | bool b => cases b <;> decide
  | number n => exact n.isLine_text

theorem isLine_nameText {name : List Char} (h : IsPlain name) : IsLine (nameText name) := by
  have hquote : isLineEnd '"' = false := by decide
  have hcolon : isLineEnd ':' = false := by decide
  simp [nameText, hquote, hcolon, isLine_minimal h]

theorem isLine_memberText {m : Member} (hname : IsPlain m.1) (hitem : m.2.IsPlain) :
    IsLine (memberText m) :=
  isLine_append.2 ⟨isLine_nameText hname, hitem.isLine_written⟩

/-- **An object without raw line ends is written on one line.** -/
theorem isLine_objectText {members : List Member}
    (h : ∀ m ∈ members, IsPlain m.1 ∧ m.2.IsPlain) : IsLine (objectText members) := by
  have hjoin : IsLine (join [','] (members.map memberText)) := by
    refine isLine_join (by decide) fun s hs => ?_
    obtain ⟨m, hm, rfl⟩ := List.mem_map.1 hs
    exact isLine_memberText (h m hm).1 (h m hm).2
  simp only [objectText, isLine_cons, isLine_append]
  exact ⟨by decide, hjoin, by decide, isLine_nil⟩

/-! ## Cut objects -/

/-- Where some member has a raw line end, there is a first string that has one. -/
theorem exists_first_not_isPlain {members : List Member} (h : ¬ ∀ m ∈ members, m.2.IsPlain) :
    ∃ before name s after, members = before ++ (name, .text s) :: after ∧
      (∀ m ∈ before, m.2.IsPlain) ∧ ∃ c ∈ s, isRawLineEnd c = true := by
  induction members with
  | nil => exact absurd (by simp) h
  | cons m rest ih =>
    by_cases hm : m.2.IsPlain
    · have hrest : ¬ ∀ m ∈ rest, m.2.IsPlain := by
        intro hrest
        exact h (List.forall_mem_cons.2 ⟨hm, hrest⟩)
      obtain ⟨before, name, s, after, rfl, hbefore, hs⟩ := ih hrest
      exact ⟨m :: before, name, s, after, rfl, List.forall_mem_cons.2 ⟨hm, hbefore⟩, hs⟩
    · obtain ⟨name, item⟩ := m
      cases item with
      | text s =>
        refine ⟨[], name, s, rest, rfl, by simp, ?_⟩
        simpa [Item.IsPlain, Text.IsPlain] using hm
      | null => exact absurd trivial hm
      | bool b => exact absurd trivial hm
      | number n => exact absurd trivial hm

/-- The first line of texts that start with a line is that line and the first line of the rest. -/
theorem takeWhile_append_of_isLine {s : List Char} (hs : IsLine s) (t : List Char) :
    (s ++ t).takeWhile (!isLineEnd ·) = s ++ t.takeWhile (!isLineEnd ·) :=
  List.takeWhile_append_of_pos fun c hc => by simp [hs c hc]

/-- The first line of texts that start with more than a line is that of the first text. -/
theorem takeWhile_append_of_mem {s : List Char} {c : Char} (hc : c ∈ s)
    (hend : isLineEnd c = true) (t : List Char) :
    (s ++ t).takeWhile (!isLineEnd ·) = s.takeWhile (!isLineEnd ·) := by
  rw [List.takeWhile_append, if_neg]
  intro hlength
  have hall : s.takeWhile (!isLineEnd ·) = s := (List.takeWhile_prefix _).eq_of_length hlength
  have hnot := List.takeWhile_eq_self_iff.1 hall c hc
  rw [hend] at hnot
  cases hnot

/-- **An object with a raw line end is cut within a string.** What stands before the cut does not
read. -/
theorem takeWhile_objectText {members : List Member} (hnames : ∀ m ∈ members, IsPlain m.1)
    (h : ¬ ∀ m ∈ members, m.2.IsPlain) :
    ∃ before name s cut, cut <+: minimal s ∧
      (objectText members).takeWhile (!isLineEnd ·) = cutText before name cut := by
  obtain ⟨before, name, s, after, rfl, hbefore, c, hc, hraw⟩ := exists_first_not_isPlain h
  refine ⟨before, name, s, (minimal s).takeWhile (!isLineEnd ·), List.takeWhile_prefix _, ?_⟩
  -- Everything up to the opening quote of that string is on one line, so the cut is behind it.
  let head := '\x7b' :: (before.flatMap (fun m => memberText m ++ [',']) ++ (nameText name ++ ['"']))
  have hsplit : ∃ rest, objectText (before ++ (name, .text s) :: after) =
      head ++ (minimal s ++ rest) := by
    have hfirst : ∃ rest, join [','] (((name, Item.text s) :: after).map memberText) =
        nameText name ++ ('"' :: (minimal s ++ rest)) := by
      cases after with
      | nil => exact ⟨['"'], by simp [join, memberText, Item.written]⟩
      | cons m rest => exact ⟨_, by simp [join, memberText, Item.written]; rfl⟩
    obtain ⟨rest, hfirst⟩ := hfirst
    refine ⟨rest ++ ['\x7d'], ?_⟩
    rw [objectText, List.map_append, List.map_cons, join_append_cons, ← List.map_cons, hfirst]
    simp [head, List.flatMap_map]
  have hline : IsLine head := by
    have hmembers : IsLine (before.flatMap fun m => memberText m ++ [',']) := by
      intro d hd
      obtain ⟨m, hm, hd⟩ := List.mem_flatMap.1 hd
      have hname := hnames m (List.mem_append_left _ hm)
      have hcomma : IsLine [','] := by decide
      exact isLine_append.2 ⟨isLine_memberText hname (hbefore m hm), hcomma⟩ d hd
    have hname := isLine_nameText (hnames _ (List.mem_append_right _ (List.mem_cons_self ..)))
    have hquote : IsLine ['"'] := by decide
    simp only [head, isLine_cons, isLine_append]
    exact ⟨by decide, hmembers, hname, by decide, isLine_nil⟩
  have hmem : c ∈ minimal s :=
    List.mem_flatMap.2 ⟨c, hc, by simp [minimalChar_of_isRawLineEnd hraw]⟩
  obtain ⟨rest, hsplit⟩ := hsplit
  rw [hsplit, takeWhile_append_of_isLine hline,
    takeWhile_append_of_mem hmem (isLineEnd_of_isRawLineEnd hraw)]
  simp [head, cutText, cutMembers]

end Json

end Translucency
