import Translucency.Proofs.Text.Sigma
import Translucency.Proofs.Text.Trim

/-!
# What lower case leads to

Putting a text in lower case twice is as good as putting it in lower case once. This is a fact about
the table and not about the procedure: whatever a character is replaced by must not be replaced
again. So the runs of the table are compared with each other, each by where it leads to and where
the other begins and ends (`Run.misses`), and with the two characters that are treated apart. What
comes out of that is `isSmall_of_mem_forms`, and `lower_lower` is the same for texts.

In the same way nothing is ever replaced by a blank, a comma or a bracket. A character that only it
itself leads to (`IsApart`) is in the lower case of a text if it is in the text, and only there, and
it ends the one only where it ends the other. That is why a trimmed text stays trimmed
(`trim_lower`).
-/

namespace Translucency.Text

namespace LowerCase

/-! ## The table -/

/-- The point that a run takes a point to. -/
def Run.target (run : Run) (point : Nat) : Nat := ((point : Int) + run.shift).toNat

/-- The points of an interval. -/
def Run.interval (low high : Nat) : Run := ⟨low, high, 1, 0⟩

/-- Whether a run leads to characters, and in the order of its own points. -/
def Run.isSafe (run : Run) : Bool :=
  decide (0 ≤ (run.first : Int) + run.shift) &&
    ((run.target run.last).blt 0xd800 ||
      (Nat.blt 0xdfff (run.target run.first) && (run.target run.last).blt 0x110000))

/-- Whether a run leads past another one: to points before its first or after its last, or to those
that it leaves out. -/
def Run.misses (run other : Run) : Bool :=
  (run.target run.last).blt other.first || other.last.blt (run.target run.first) ||
    (other.step == 2 && (run.step == 2 || run.first == run.last) &&
      Nat.beq ((run.target run.first + other.first) % 2) 1)

theorem isSafe_of_mem {run : Run} (h : run ∈ runs) : run.isSafe = true := by
  have hall : runs.all Run.isSafe = true := by decide +kernel
  exact List.all_eq_true.1 hall run h

theorem misses_of_mem {run other : Run} (h : run ∈ runs) (hother : other ∈ runs) :
    run.misses other = true := by
  have hall : (runs.all fun run => runs.all fun other => run.misses other) = true := by
    decide +kernel
  exact List.all_eq_true.1 (List.all_eq_true.1 hall run h) other hother

theorem covers_iff {run : Run} {point : Nat} :
    run.covers point = true ↔
      run.first ≤ point ∧ point ≤ run.last ∧ (point - run.first) % run.step = 0 := by
  simp only [Run.covers, Bool.and_eq_true, decide_eq_true_eq, beq_iff_eq, and_assoc]

/-- What a run leads to keeps the distances. -/
theorem target_eq_add {run : Run} (hsafe : run.isSafe = true) {point : Nat}
    (hpoint : run.first ≤ point) :
    run.target point = run.target run.first + (point - run.first) := by
  have hstart : 0 ≤ (run.first : Int) + run.shift := by
    rw [Run.isSafe, Bool.and_eq_true, decide_eq_true_eq] at hsafe
    exact hsafe.1
  unfold Run.target
  omega

theorem not_covers_target {run other : Run} (hsafe : run.isSafe = true)
    (hmisses : run.misses other = true) {point : Nat} (h : run.covers point = true) :
    ¬ other.covers (run.target point) = true := by
  obtain ⟨hfirst, hlast, hstep⟩ := covers_iff.1 h
  have hhere := target_eq_add hsafe hfirst
  have hend := target_eq_add hsafe (Nat.le_trans hfirst hlast)
  rw [covers_iff]
  rintro ⟨hlow, hhigh, hother⟩
  simp only [Run.misses, Bool.or_eq_true, Bool.and_eq_true, Nat.blt_eq, beq_iff_eq,
    Nat.beq_eq] at hmisses
  obtain (hbefore | hafter) | ⟨⟨htwo, hsparse⟩, hodd⟩ := hmisses
  · omega
  · omega
  · -- Both go by twos, and the one is off the other by one.
    rw [htwo] at hother
    obtain hsparse | hsingle := hsparse
    · rw [hsparse] at hstep
      omega
    · omega

theorem toNat_target {run : Run} (hsafe : run.isSafe = true) {point : Nat}
    (h : run.covers point = true) : (Char.ofNat (run.target point)).toNat = run.target point := by
  obtain ⟨hfirst, hlast, -⟩ := covers_iff.1 h
  have hhere := target_eq_add hsafe hfirst
  have hend := target_eq_add hsafe (Nat.le_trans hfirst hlast)
  rw [Run.isSafe, Bool.and_eq_true, Bool.or_eq_true, Bool.and_eq_true, Nat.blt_eq, Nat.blt_eq,
    Nat.blt_eq] at hsafe
  have hvalid : (run.target point).isValidChar := by
    unfold Nat.isValidChar
    omega
  rw [Char.ofNat, dif_pos hvalid]
  rfl

/-! ## One character -/

/-- All that a character may be replaced by, wherever it stands. -/
def forms (c : Char) : List Char := if c = '\u03a3' then ['\u03c2', '\u03c3'] else letter c

/-- Whether a character is left alone. -/
def IsSmall (c : Char) : Prop := forms c = [c]

instance : DecidablePred IsSmall := fun c => inferInstanceAs (Decidable (forms c = [c]))

/-- Whether no other character is replaced by this one. -/
def IsApart (d : Char) : Prop := ∀ c, d ∈ forms c → c = d

/-- A character is replaced by what a run leads to, or it is one of the two that are treated apart,
or it is left alone. -/
theorem forms_cases (c : Char) :
    c = '\u03a3' ∨ c = '\u0130' ∨
      (∃ run ∈ runs, run.covers c.toNat = true ∧
        forms c = [Char.ofNat (run.target c.toNat)]) ∨ forms c = [c] := by
  by_cases hsigma : c = '\u03a3'
  · exact .inl hsigma
  by_cases hdotted : c = '\u0130'
  · exact .inr (.inl hdotted)
  have hforms : forms c = letter c := if_neg hsigma
  rw [hforms, letter, if_neg hdotted]
  cases hrun : runs.find? (·.covers c.toNat) with
  | none => exact .inr (.inr (.inr rfl))
  | some run =>
    have hcovers := List.find?_some hrun
    exact .inr (.inr (.inl ⟨run, List.mem_of_find?_eq_some hrun, hcovers, rfl⟩))

theorem isSmall_of_not_covers {c : Char} (hdotted : c ≠ '\u0130')
    (h : ∀ run ∈ runs, ¬ run.covers c.toNat = true) : IsSmall c := by
  have hsigma : c ≠ '\u03a3' := by
    rintro rfl
    have hcovered : (runs.any fun run => run.covers '\u03a3'.toNat) = true := by decide +kernel
    obtain ⟨run, hrun, hcovers⟩ := List.any_eq_true.1 hcovered
    exact h run hrun hcovers
  have hnone : runs.find? (·.covers c.toNat) = none := List.find?_eq_none.2 h
  rw [IsSmall, forms, if_neg hsigma, letter, if_neg hdotted, hnone]

/-- **What a character is replaced by is not replaced again.** -/
theorem isSmall_of_mem_forms {c d : Char} (h : d ∈ forms c) : IsSmall d := by
  obtain rfl | rfl | ⟨run, hrun, hcovers, hforms⟩ | hself := forms_cases c
  · have hall : ((forms '\u03a3').all fun d => decide (IsSmall d)) = true := by decide +kernel
    exact of_decide_eq_true (List.all_eq_true.1 hall d h)
  · have hall : ((forms '\u0130').all fun d => decide (IsSmall d)) = true := by decide +kernel
    exact of_decide_eq_true (List.all_eq_true.1 hall d h)
  · rw [hforms, List.mem_singleton] at h
    subst h
    have hsafe := isSafe_of_mem hrun
    have hpoint := toNat_target hsafe hcovers
    have hdotted : runs.all (·.misses (.interval 0x130 0x130)) = true := by decide +kernel
    refine isSmall_of_not_covers (fun heq => ?_) fun other hother => ?_
    · refine not_covers_target hsafe (List.all_eq_true.1 hdotted run hrun) hcovers ?_
      rw [← hpoint, heq]
      decide
    · rw [hpoint]
      exact not_covers_target hsafe (misses_of_mem hrun hother) hcovers
  · rw [hself, List.mem_singleton] at h
    rwa [h]

/-- What the two characters beside the table lead to. -/
def special : List Char := ['i', '\u0307', '\u03c2', '\u03c3']

/-- Whether the table, and the two characters beside it, lead past a set of characters. -/
def avoids (spans : Spans) : Bool :=
  (runs.all fun run => spans.all fun span => run.misses (.interval span.1 span.2)) &&
    special.all fun d => !spans.covers d.toNat

theorem isApart_of_covers (spans : Spans) (h : avoids spans = true) {d : Char}
    (hd : spans.covers d.toNat = true) : IsApart d := by
  rw [avoids, Bool.and_eq_true] at h
  obtain ⟨hruns, hothers⟩ := h
  have hother : ∀ e ∈ special, e ≠ d := by
    rintro e he rfl
    have hnot := List.all_eq_true.1 hothers e he
    rw [hd] at hnot
    cases hnot
  intro c hc
  obtain rfl | rfl | ⟨run, hrun, hcovers, hforms⟩ | hself := forms_cases c
  · have hall : ((forms '\u03a3').all special.contains) = true := by decide +kernel
    exact absurd rfl (hother d (List.contains_iff_mem.1 (List.all_eq_true.1 hall d hc)))
  · have hall : ((forms '\u0130').all special.contains) = true := by decide +kernel
    exact absurd rfl (hother d (List.contains_iff_mem.1 (List.all_eq_true.1 hall d hc)))
  · -- The point would lie in one of the spans.
    rw [hforms, List.mem_singleton] at hc
    obtain ⟨span, hspan, hlow, hhigh⟩ := (Spans.covers_iff ..).1 hd
    have hsafe := isSafe_of_mem hrun
    have hmisses := List.all_eq_true.1 (List.all_eq_true.1 hruns run hrun) span hspan
    rw [hc, toNat_target hsafe hcovers] at hlow hhigh
    exact absurd (covers_iff.2 ⟨hlow, hhigh, Nat.mod_one _⟩)
      (not_covers_target hsafe hmisses hcovers)
  · rw [hself, List.mem_singleton] at hc
    exact hc.symm

/-! ## Texts -/

/-- One character of a text is replaced by one or two of its forms. -/
theorem exists_within_cons (before after : Bool) (c : Char) (s : List Char) :
    ∃ here next, here ≠ [] ∧ (∀ d ∈ here, d ∈ forms c) ∧
      within before after (c :: s) = here ++ within next after s := by
  rw [within]
  refine ⟨_, _, ?_, ?_, rfl⟩
  · split
    · exact List.cons_ne_nil _ _
    · exact letter_ne_nil c
  · split
    · next hsigma =>
      intro d hd
      rw [List.mem_singleton] at hd
      rw [hd, hsigma, forms, if_pos rfl]
      cases (before && !casedOr after s) with
      | true => exact List.mem_cons_self ..
      | false => exact List.mem_cons_of_mem _ (List.mem_cons_self ..)
    · next hsigma =>
      intro d hd
      rwa [forms, if_neg hsigma]

/-- All characters of a lower case are forms of those of the text. -/
theorem exists_of_mem_within {before after : Bool} {s : List Char} {d : Char}
    (h : d ∈ within before after s) : ∃ c ∈ s, d ∈ forms c := by
  induction s generalizing before with
  | nil => cases h
  | cons c s ih =>
    obtain ⟨here, next, -, hforms, hwithin⟩ := exists_within_cons before after c s
    rw [hwithin, List.mem_append] at h
    obtain h | h := h
    · exact ⟨c, List.mem_cons_self .., hforms d h⟩
    · obtain ⟨c', hc', hd⟩ := ih h
      exact ⟨c', List.mem_cons_of_mem c hc', hd⟩

theorem mem_forms_of_head?_within {before after : Bool} {c d : Char} {s : List Char}
    (h : (within before after (c :: s)).head? = some d) : d ∈ forms c := by
  obtain ⟨here, next, hne, hforms, hwithin⟩ := exists_within_cons before after c s
  rw [hwithin, List.head?_append_of_ne_nil _ hne] at h
  exact hforms d (List.mem_of_mem_head? h)

theorem mem_forms_of_getLast?_within {before after : Bool} {c d : Char} {s : List Char}
    (h : (within before after (s ++ [c])).getLast? = some d) : d ∈ forms c := by
  obtain ⟨here, next, hne, hforms, hwithin⟩ :=
    exists_within_cons (casedOr before s.reverse) after c []
  rw [within_append, hwithin, within, List.append_nil, List.getLast?_append_of_ne_nil _ hne] at h
  exact hforms d (List.mem_of_mem_getLast? h)

/-- A text of characters that are left alone is left alone. -/
theorem within_of_isSmall {s : List Char} (h : ∀ c ∈ s, IsSmall c) (before after : Bool) :
    within before after s = s := by
  induction s generalizing before with
  | nil => rfl
  | cons c s ih =>
    rw [List.forall_mem_cons] at h
    obtain ⟨hc, hs⟩ := h
    -- The two forms of a sigma are none of it, so this is no sigma.
    have hsigma : c ≠ '\u03a3' := by
      rintro rfl
      have hforms : forms '\u03a3' = ['\u03a3'] := hc
      exact absurd hforms (by decide)
    have hletter : letter c = [c] := by
      rw [IsSmall, forms, if_neg hsigma] at hc
      exact hc
    rw [within, if_neg hsigma, hletter, ih hs]
    rfl

namespace IsApart

variable {d : Char} (h : IsApart d) {s : List Char}

include h

theorem mem (hd : d ∈ lower s) : d ∈ s := by
  rw [lower_eq_within] at hd
  obtain ⟨c, hc, hforms⟩ := exists_of_mem_within hd
  rwa [← h c hforms]

theorem head? (hd : (lower s).head? = some d) : s.head? = some d := by
  cases s with
  | nil => cases hd
  | cons c s =>
    rw [lower_eq_within] at hd
    rw [h c (mem_forms_of_head?_within hd)]
    rfl

theorem getLast? (hd : (lower s).getLast? = some d) : s.getLast? = some d := by
  rcases s.eq_nil_or_concat with rfl | ⟨init, c, rfl⟩
  · cases hd
  · rw [List.concat_eq_append] at hd ⊢
    rw [lower_eq_within] at hd
    rw [h c (mem_forms_of_getLast?_within hd), List.getLast?_concat]

end IsApart

theorem isApart_of_isBlank {d : Char} (h : isBlank d = true) : IsApart d :=
  isApart_of_covers blankSpans (by decide +kernel) h

end LowerCase

open LowerCase

/-- **A text in lower case is its own lower case.** -/
@[simp] theorem lower_lower (s : List Char) : lower (lower s) = lower s := by
  rw [lower_eq_within (lower s), within_of_isSmall]
  intro d hd
  rw [lower_eq_within] at hd
  obtain ⟨c, -, hforms⟩ := exists_of_mem_within hd
  exact isSmall_of_mem_forms hforms

/-- **A trimmed text stays trimmed in lower case**, since no end of it becomes a blank. -/
theorem trim_lower {s : List Char} (h : trim s = s) : trim (lower s) = lower s := by
  refine trim_of_ends (fun d hd => ?_) fun d hd => ?_
  · by_contra hblank
    rw [Bool.not_eq_false] at hblank
    have hhead := (isApart_of_isBlank hblank).head? hd
    rw [← h] at hhead
    rw [head?_trim hhead] at hblank
    cases hblank
  · by_contra hblank
    rw [Bool.not_eq_false] at hblank
    have hlast := (isApart_of_isBlank hblank).getLast? hd
    rw [← h] at hlast
    rw [getLast?_trim hlast] at hblank
    cases hblank

end Translucency.Text
