import Mathlib.Data.List.TakeWhile
import Translucency.Text.Blank

/-!
# What trimming does

A trimmed text is the text without the blanks at its two ends, and that is all this module says:
where the text can be found again (`exists_blanks_trim`), what the ends of the trimmed text are
(`head?_trim`, `getLast?_trim`), and that a text whose ends are not blank is its own trimmed text
(`trim_of_ends`). Everything that reads a token or a field of a line rests on these three.
-/

namespace Translucency.Text

variable {s t : List Char}

/-! ## Blank texts -/

theorem trimLeft_eq_nil_iff : trimLeft s = [] ↔ ∀ c ∈ s, isBlank c = true :=
  List.dropWhile_eq_nil_iff

theorem exists_blanks_trimLeft (s : List Char) :
    ∃ left, (∀ c ∈ left, isBlank c = true) ∧ s = left ++ trimLeft s :=
  ⟨s.takeWhile isBlank, fun _ hc => List.mem_takeWhile_imp hc,
    (List.takeWhile_append_dropWhile ..).symm⟩

theorem exists_blanks_trimRight (s : List Char) :
    ∃ right, (∀ c ∈ right, isBlank c = true) ∧ s = trimRight s ++ right := by
  obtain ⟨left, hleft, hs⟩ := exists_blanks_trimLeft s.reverse
  refine ⟨left.reverse, fun c hc => hleft c (List.mem_reverse.1 hc), ?_⟩
  have h := congrArg List.reverse hs
  rw [List.reverse_reverse, List.reverse_append] at h
  exact h

/-- Trimming takes away a blank text at each end. -/
theorem exists_blanks_trim (s : List Char) :
    ∃ left right, (∀ c ∈ left, isBlank c = true) ∧ (∀ c ∈ right, isBlank c = true) ∧
      s = left ++ (trim s ++ right) := by
  obtain ⟨left, hleft, hs⟩ := exists_blanks_trimLeft s
  obtain ⟨right, hright, ht⟩ := exists_blanks_trimRight (trimLeft s)
  exact ⟨left, right, hleft, hright, by rw [trim, ← ht, ← hs]⟩

theorem trim_eq_nil_iff : trim s = [] ↔ ∀ c ∈ s, isBlank c = true := by
  constructor
  · intro h
    obtain ⟨left, right, hleft, hright, hs⟩ := exists_blanks_trim s
    rw [h] at hs
    intro c hc
    rw [hs] at hc
    rcases List.mem_append.1 hc with hc | hc
    · exact hleft c hc
    · exact hright c hc
  · intro h
    rw [trim, trimLeft_eq_nil_iff.2 h]
    rfl

/-! ## The ends of a trimmed text -/

theorem trimRight_of_getLast (h : ∀ c ∈ s.getLast?, isBlank c = false) : trimRight s = s := by
  rw [trimRight, trimLeft_of_head, List.reverse_reverse]
  rwa [List.head?_reverse]

/-- A text whose ends are not blank is trimmed. -/
theorem trim_of_ends (hhead : ∀ c ∈ s.head?, isBlank c = false)
    (hlast : ∀ c ∈ s.getLast?, isBlank c = false) : trim s = s := by
  rw [trim, trimLeft_of_head hhead, trimRight_of_getLast hlast]

/-- A trimmed text ends with no blank. -/
theorem getLast?_trim {c : Char} (h : (trim s).getLast? = some c) : isBlank c = false :=
  getLast?_trimRight h

/-- A trimmed text starts with no blank: it starts as the text does that is trimmed on the left
only, for what is taken away on the right comes after. -/
theorem head?_trim {c : Char} (h : (trim s).head? = some c) : isBlank c = false := by
  obtain ⟨right, -, ht⟩ := exists_blanks_trimRight (trimLeft s)
  apply head?_trimLeft (s := s)
  rw [ht, List.head?_append, show trimRight (trimLeft s) = trim s from rfl, h]
  rfl

theorem trimRight_of_trim (h : trim s = s) : trimRight s = s :=
  trimRight_of_getLast fun _ hc => getLast?_trim (h.symm ▸ hc)

theorem trim_toList_of_trimmed {s : String} (h : trimmed s = s) : trim s.toList = s.toList := by
  rw [← String.toList_ofList (l := trim s.toList)]
  exact congrArg String.toList h

/-- Trimming a trimmed text changes nothing. -/
@[simp] theorem trim_trim (s : List Char) : trim (trim s) = trim s :=
  trim_of_ends (fun _ h => head?_trim h) (fun _ h => getLast?_trim h)

/-- What stands up to a character that is no blank survives trimming on the right. -/
theorem trimRight_append_cons {c : Char} (hc : isBlank c = false) (s t : List Char) :
    trimRight (s ++ c :: t) = s ++ c :: trimRight t := by
  have hstop : trimLeft (c :: s.reverse) = c :: s.reverse := by simp [trimLeft, hc]
  have hleft : trimLeft (t.reverse ++ c :: s.reverse) = trimLeft t.reverse ++ c :: s.reverse := by
    unfold trimLeft at hstop ⊢
    rw [List.dropWhile_append, hstop]
    split
    · next hnil => rw [List.isEmpty_iff.1 hnil, List.nil_append]
    · rfl
  simp [trimRight, hleft]

theorem trimRight_cons {c : Char} (hc : isBlank c = false) (s : List Char) :
    trimRight (c :: s) = c :: trimRight s :=
  trimRight_append_cons hc [] s

theorem exists_trimRight_append_cons {c : Char} (hc : isBlank c = false) (s t : List Char) :
    ∃ rest, rest <+: t ∧ trimRight (s ++ c :: t) = s ++ c :: rest := by
  obtain ⟨right, -, ht⟩ := exists_blanks_trimRight t
  exact ⟨trimRight t, ⟨right, ht.symm⟩, trimRight_append_cons hc s t⟩

/-- Blanks at the end do not show when the text is trimmed on the right. -/
theorem trimRight_append_blanks {t : List Char} (ht : ∀ c ∈ t, isBlank c = true) (s : List Char) :
    trimRight (s ++ t) = trimRight s := by
  rw [trimRight, List.reverse_append, trimLeft, List.dropWhile_append_of_pos]
  · rfl
  · exact fun c hc => ht c (List.mem_reverse.1 hc)

end Translucency.Text
