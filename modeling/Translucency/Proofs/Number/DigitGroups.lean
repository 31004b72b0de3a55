import Mathlib.Data.List.TakeWhile
import Translucency.Proofs.Number.Numerals

/-!
# Digits with underscores between them

A numeral may have its digits in groups, with an underscore between two of them. The reader looks at
the underscores of the whole text once, character by character, and throws all of them away before
it looks at anything else. A grammar puts them where digits are (`Digits`). The two agree, but not
piece by piece: an underscore that was thrown away could have stood on either side of a point or of
a sign.

So a text is cut while its underscores are still there. Where they are in order, what a text begins
with is a run of digits, and they are in order in what is left, which begins with neither a digit
nor an underscore (`exists_run`). What the reader keeps of the text is then cut at the same place
(`span_bare`).
-/

namespace Translucency.Numeral

open Text

/-! ## Digits of every script -/

/-- The ASCII digit of a value. -/
def digitOf (v : Nat) : Char := Char.ofNat ('0'.toNat + v)

/-- The character that a character is read as: a digit of any script is read as the ASCII digit of
its value. -/
def ascii (c : Char) : Char :=
  match decimalValue? c with
  | some v => digitOf v
  | none => c

/-- A digit stands as far behind the zero of its script as its value says. -/
theorem exists_zero_of_value {c : Char} {v : Nat} (h : decimalValue? c = some v) :
    ∃ start ∈ decimalZeros, v < 10 ∧ c.toNat = start + v := by
  obtain ⟨start, hstart, rfl⟩ := Option.map_eq_some_iff.1 h
  have hrange := List.find?_some hstart
  rw [Bool.and_eq_true, decide_eq_true_eq, decide_eq_true_eq] at hrange
  exact ⟨start, List.mem_of_find?_eq_some hstart, by omega, by omega⟩

theorem decimalValue?_lt {c : Char} {v : Nat} (h : decimalValue? c = some v) : v < 10 := by
  obtain ⟨-, -, hlt, -⟩ := exists_zero_of_value h
  exact hlt

theorem ascii_of_value {c : Char} {v : Nat} (h : decimalValue? c = some v) :
    ascii c = digitOf v := by
  rw [ascii, h]

theorem ascii_of_none {c : Char} (h : decimalValue? c = none) : ascii c = c := by
  rw [ascii, h]

theorem isDigit_digitOf {v : Nat} (h : v < 10) : (digitOf v).isDigit = true := by
  have hall : ∀ v < 10, (digitOf v).isDigit = true := by decide
  exact hall v h

theorem isDigit_ascii (c : Char) : (ascii c).isDigit = (decimalValue? c).isSome := by
  cases h : decimalValue? c with
  | some v =>
    rw [ascii_of_value h, isDigit_digitOf (decimalValue?_lt h)]
    rfl
  | none =>
    rw [ascii_of_none h, Option.isSome_none, ← Bool.not_eq_true]
    intro hdigit
    rw [decimalValue?_of_isDigit hdigit] at h
    cases h

/-- No digit is read as something that is not a digit, and everything else stands for itself. -/
theorem ascii_eq_iff {c d : Char} (hd : decimalValue? d = none) : ascii c = d ↔ c = d := by
  cases h : decimalValue? c with
  | some v =>
    refine iff_of_false ?_ ?_
    · rintro rfl
      rw [ascii_of_value h, decimalValue?_of_isDigit (isDigit_digitOf (decimalValue?_lt h))] at hd
      cases hd
    · rintro rfl
      rw [h] at hd
      cases hd
  | none => rw [ascii_of_none h]

/-- What is kept of a text: its digits in ASCII, its underscores thrown away. -/
def bare (s : List Char) : List Char := (s.map ascii).filter (· != '_')

theorem bare_append (s t : List Char) : bare (s ++ t) = bare s ++ bare t := by
  rw [bare, List.map_append, List.filter_append]
  rfl

theorem bare_cons {c : Char} (hc : c ≠ '_') (s : List Char) :
    bare (c :: s) = ascii c :: bare s := by
  have hkept : (ascii c != '_') = true := by
    rw [bne_iff_ne, Ne, ascii_eq_iff (by decide)]
    exact hc
  exact List.filter_cons_of_pos hkept

/-! ## Runs of digits -/

/-- Digits, with at most one underscore between two of them, and their values. -/
inductive Digits : List Char → List Nat → Prop
  | last {c : Char} {v : Nat} (h : decimalValue? c = some v) : Digits [c] [v]
  | digit {c : Char} {v : Nat} {s : List Char} {vs : List Nat} (h : decimalValue? c = some v)
    (hs : Digits s vs) : Digits (c :: s) (v :: vs)
  | underscore {c : Char} {v : Nat} {s : List Char} {vs : List Nat} (h : decimalValue? c = some v)
    (hs : Digits s vs) : Digits (c :: '_' :: s) (v :: vs)

/-- Digits, or nothing at all. -/
def Run (s : List Char) (vs : List Nat) : Prop := s = [] ∧ vs = [] ∨ Digits s vs

theorem Digits.exists_cons {s : List Char} {vs : List Nat} (h : Digits s vs) :
    ∃ c t v ws, s = c :: t ∧ vs = v :: ws ∧ decimalValue? c = some v := by
  cases h with
  | last h => exact ⟨_, _, _, _, rfl, rfl, h⟩
  | digit h => exact ⟨_, _, _, _, rfl, rfl, h⟩
  | underscore h => exact ⟨_, _, _, _, rfl, rfl, h⟩

theorem ne_underscore_of_value {c : Char} {v : Nat} (h : decimalValue? c = some v) : c ≠ '_' := by
  rintro rfl
  cases h

/-- Of digits, all but the underscores is kept. -/
theorem Digits.bare_eq {s : List Char} {vs : List Nat} (h : Digits s vs) :
    bare s = vs.map digitOf := by
  have hskip : ∀ s, bare ('_' :: s) = bare s := fun _ => rfl
  induction h with
  | last h => rw [bare_cons (ne_underscore_of_value h), ascii_of_value h]; rfl
  | digit h _ ih => rw [bare_cons (ne_underscore_of_value h), ascii_of_value h, ih]; rfl
  | underscore h _ ih =>
    rw [bare_cons (ne_underscore_of_value h), ascii_of_value h, hskip, ih]
    rfl

theorem Digits.lt {s : List Char} {vs : List Nat} (h : Digits s vs) : ∀ v ∈ vs, v < 10 := by
  induction h with
  | last h => exact List.forall_mem_singleton.2 (decimalValue?_lt h)
  | digit h _ ih => exact List.forall_mem_cons.2 ⟨decimalValue?_lt h, ih⟩
  | underscore h _ ih => exact List.forall_mem_cons.2 ⟨decimalValue?_lt h, ih⟩

section Run

variable {s : List Char} {vs : List Nat} (h : Run s vs)

include h

theorem Run.bare_eq : bare s = vs.map digitOf := by
  rcases h with ⟨rfl, rfl⟩ | h
  · rfl
  · exact h.bare_eq

theorem Run.lt : ∀ v ∈ vs, v < 10 := by
  rcases h with ⟨-, rfl⟩ | h
  · exact nofun
  · exact h.lt

theorem Run.isDigit_bare : ∀ c ∈ bare s, c.isDigit = true := by
  rw [h.bare_eq]
  intro c hc
  obtain ⟨v, hv, rfl⟩ := List.mem_map.1 hc
  exact isDigit_digitOf (h.lt v hv)

theorem Run.digits (hne : vs ≠ []) : Digits s vs := by
  rcases h with ⟨-, rfl⟩ | h
  · exact absurd rfl hne
  · exact h

end Run

/-- The number that the values of digits make up. -/
def amount (vs : List Nat) : Nat := vs.foldl (fun n v => 10 * n + v) 0

theorem value_eq_amount {vs : List Nat} (h : ∀ v ∈ vs, v < 10) :
    value (vs.map digitOf) = amount vs := by
  have hdigit : ∀ v < 10, (digitOf v).toNat - '0'.toNat = v := by decide
  -- The fold has read digits before these, so it may start from any number.
  have hfold : ∀ (vs : List Nat) (n : Nat), (∀ v ∈ vs, v < 10) →
      (vs.map digitOf).foldl
        (fun n c => 10 * n + (c.toNat - '0'.toNat)) n = vs.foldl (fun n v => 10 * n + v) n := by
    intro vs
    induction vs with
    | nil => exact fun _ _ => rfl
    | cons v vs ih =>
      intro n h
      rw [List.map_cons, List.foldl_cons, List.foldl_cons, hdigit v (h v (List.mem_cons_self ..)),
        ih _ fun w hw => h w (List.mem_cons_of_mem v hw)]
  exact hfold vs 0 h

/-! ## Underscores in order -/

/-- Whether the underscores of a text are all between two digits. -/
def InOrder (s : List Char) : Prop := underscoresBetween ' ' (s.map ascii) = true

theorem inOrder_nil : InOrder [] := rfl

/-- Before a character that is no underscore, only an underscore matters. -/
theorem underscoresBetween_cons {p c : Char} (hp : p ≠ '_') (hc : c ≠ '_') (s : List Char) :
    underscoresBetween p (c :: s) = underscoresBetween c s := by
  have hp' : (p != '_') = true := bne_iff_ne.2 hp
  have hc' : (c == '_') = false := beq_eq_false_iff_ne.2 hc
  rw [underscoresBetween, hc', hp']
  rfl

/-- A character that is neither a digit nor an underscore leaves the rest to itself. -/
theorem underscoresBetween_of_plain {p : Char} (hp : p ≠ '_') (hdigit : p.isDigit = false)
    (s : List Char) : underscoresBetween p s = underscoresBetween ' ' s := by
  cases s with
  | nil => simpa [underscoresBetween] using hp
  | cons c s =>
    by_cases hc : c = '_'
    · subst hc
      simp only [underscoresBetween, hdigit]
      rfl
    · rw [underscoresBetween_cons hp hc, underscoresBetween_cons (by decide) hc]

section InOrder

variable {c : Char} {s : List Char}

theorem InOrder.ne_underscore (h : InOrder (c :: s)) : c ≠ '_' := by
  rintro rfl
  exact absurd h Bool.false_ne_true

theorem ascii_ne_underscore (hc : c ≠ '_') : ascii c ≠ '_' := mt (ascii_eq_iff (by decide)).1 hc

theorem inOrder_cons_plain (hc : c ≠ '_') (hvalue : decimalValue? c = none) :
    InOrder (c :: s) ↔ InOrder s := by
  have hdigit : c.isDigit = false := by
    rw [← ascii_of_none hvalue, isDigit_ascii, hvalue]
    rfl
  rw [InOrder, InOrder, List.map_cons, ascii_of_none hvalue,
    underscoresBetween_cons (by decide) hc, underscoresBetween_of_plain hc hdigit]

/-- An underscore leads to a digit. -/
theorem underscoresBetween_underscore :
    underscoresBetween '_' (s.map ascii) = true ↔
      ∃ d t v, s = d :: t ∧ decimalValue? d = some v ∧ InOrder (d :: t) := by
  cases s with
  | nil => exact iff_of_false Bool.false_ne_true (by rintro ⟨d, t, v, ⟨⟩, -⟩)
  | cons d t =>
    by_cases hd : d = '_'
    · -- Two underscores in a row are never in order.
      subst hd
      refine iff_of_false Bool.false_ne_true ?_
      rintro ⟨d, t, v, ht, hv, -⟩
      obtain ⟨rfl, rfl⟩ := List.cons.inj ht
      cases hv
    · have hascii := ascii_ne_underscore hd
      have hlook : underscoresBetween '_' ((d :: t).map ascii) =
          ((ascii d).isDigit && underscoresBetween (ascii d) (t.map ascii)) := by
        rw [List.map_cons, underscoresBetween, beq_eq_false_iff_ne.2 hascii]
        rfl
      rw [hlook, isDigit_ascii, Bool.and_eq_true, Option.isSome_iff_exists]
      constructor
      · rintro ⟨⟨v, hv⟩, h⟩
        refine ⟨d, t, v, rfl, hv, ?_⟩
        rwa [InOrder, List.map_cons, underscoresBetween_cons (by decide) hascii]
      · rintro ⟨d, t, v, ht, hv, h⟩
        obtain ⟨rfl, rfl⟩ := List.cons.inj ht
        rw [InOrder, List.map_cons, underscoresBetween_cons (by decide) hascii] at h
        exact ⟨⟨v, hv⟩, h⟩

/-- After a digit, the underscores are in order in the rest, or one of them comes next and leads to
another digit. -/
theorem inOrder_cons_digit {v : Nat} (hc : decimalValue? c = some v) :
    InOrder (c :: s) ↔
      InOrder s ∨ ∃ d t w, s = '_' :: d :: t ∧ decimalValue? d = some w ∧ InOrder (d :: t) := by
  have hascii := ascii_ne_underscore (ne_underscore_of_value hc)
  have hdigit : (ascii c).isDigit = true := by rw [isDigit_ascii, hc]; rfl
  rw [InOrder, List.map_cons, underscoresBetween_cons (by decide) hascii]
  cases s with
  | nil => exact iff_of_true (bne_iff_ne.2 hascii) (.inl inOrder_nil)
  | cons d t =>
    by_cases hd : d = '_'
    · -- What is behind the underscore is looked at with the underscore in front.
      subst hd
      have hlook : underscoresBetween (ascii c) (('_' :: t).map ascii) =
          underscoresBetween '_' (t.map ascii) := by
        rw [List.map_cons, ascii_of_none (c := '_') (by decide), underscoresBetween, hdigit]
        rfl
      rw [hlook, underscoresBetween_underscore]
      constructor
      · rintro ⟨d, t, w, rfl, hw, h⟩
        exact .inr ⟨d, t, w, rfl, hw, h⟩
      · rintro (h | ⟨d, t, w, ht, hw, h⟩)
        · exact absurd rfl h.ne_underscore
        · exact ⟨d, t, w, (List.cons.inj ht).2, hw, h⟩
    · rw [List.map_cons, underscoresBetween_cons hascii (ascii_ne_underscore hd),
        ← underscoresBetween_cons (show ' ' ≠ '_' by decide) (ascii_ne_underscore hd)]
      refine ⟨.inl, ?_⟩
      rintro (h | ⟨_, _, _, ht, -⟩)
      · exact h
      · exact absurd (List.cons.inj ht).1 hd

end InOrder

/-! ## Cutting off a run of digits -/

/-- What follows digits, if its underscores are in order, is in order together with them. -/
theorem Digits.inOrder_append {s t : List Char} {vs : List Nat} (h : Digits s vs)
    (ht : InOrder t) : InOrder (s ++ t) := by
  induction h with
  | last h => exact (inOrder_cons_digit h).2 (.inl ht)
  | digit h _ ih => exact (inOrder_cons_digit h).2 (.inl ih)
  | underscore h hs ih =>
    obtain ⟨d, u, w, -, rfl, -, hw⟩ := hs.exists_cons
    exact (inOrder_cons_digit h).2 (.inr ⟨d, u ++ t, w, rfl, hw, ih⟩)

theorem Run.inOrder_append {s t : List Char} {vs : List Nat} (h : Run s vs) (ht : InOrder t) :
    InOrder (s ++ t) := by
  rcases h with ⟨rfl, -⟩ | h
  · exact ht
  · exact h.inOrder_append ht

/-- Whether a text begins with something else than a digit, or is empty. -/
def NoDigitFirst (s : List Char) : Prop := ∀ c ∈ s.head?, decimalValue? c = none

/-- A text with its underscores in order begins with a run of digits, and they are in order in the
rest. -/
theorem exists_run {s : List Char} (h : InOrder s) :
    ∃ run rest vs, s = run ++ rest ∧ Run run vs ∧ InOrder rest ∧ NoDigitFirst rest := by
  -- A digit may take an underscore with it, so the induction is on the length of the text.
  induction hn : s.length using Nat.strongRecOn generalizing s with
  | _ n ih =>
    subst hn
    cases s with
    | nil => exact ⟨[], [], [], rfl, .inl ⟨rfl, rfl⟩, h, nofun⟩
    | cons c s =>
      cases hc : decimalValue? c with
      | none =>
        refine ⟨[], c :: s, [], rfl, .inl ⟨rfl, rfl⟩, h, ?_⟩
        rintro _ ⟨⟩
        exact hc
      | some v =>
        rcases (inOrder_cons_digit hc).1 h with h | ⟨d, s, w, rfl, hw, h⟩
        · obtain ⟨run, rest, vs, rfl, hrun, hrest⟩ := ih _ (by simp) h rfl
          refine ⟨c :: run, rest, v :: vs, rfl, .inr ?_, hrest⟩
          rcases hrun with ⟨rfl, rfl⟩ | hrun
          · exact .last hc
          · exact .digit hc hrun
        · obtain ⟨run, rest, vs, hs, hrun, hrest⟩ := ih _ (by simp) h rfl
          rcases hrun with ⟨rfl, -⟩ | hrun
          · -- There is a digit behind the underscore.
            have hnone := hrest.2 d (by rw [← List.nil_append rest, ← hs]; rfl)
            rw [hw] at hnone
            cases hnone
          · exact ⟨c :: '_' :: run, rest, v :: vs, by rw [hs]; rfl,
              .inr (.underscore hc hrun), hrest⟩

/-- A run of digits is read up to its end. -/
theorem span_bare {run rest : List Char} {vs : List Nat} (hrun : Run run vs) (hrest : InOrder rest)
    (hfirst : NoDigitFirst rest) :
    (bare (run ++ rest)).takeWhile Char.isDigit = bare run ∧
      (bare (run ++ rest)).dropWhile Char.isDigit = bare rest := by
  -- The first character behind the run is no underscore, so it is kept and stops the reader.
  have hstop : ∀ c ∈ (bare rest).head?, ¬ c.isDigit = true := by
    cases rest with
    | nil => exact nofun
    | cons c rest =>
      rw [bare_cons hrest.ne_underscore]
      rintro _ ⟨⟩
      rw [isDigit_ascii, hfirst c rfl]
      exact Bool.false_ne_true
  have hnone : (bare rest).takeWhile Char.isDigit = [] ∧
      (bare rest).dropWhile Char.isDigit = bare rest := by
    cases hbare : bare rest with
    | nil => exact ⟨rfl, rfl⟩
    | cons c s =>
      have hc := hstop c (by rw [hbare]; rfl)
      exact ⟨List.takeWhile_cons_of_neg hc, List.dropWhile_cons_of_neg hc⟩
  rw [bare_append, List.takeWhile_append_of_pos hrun.isDigit_bare,
    List.dropWhile_append_of_pos hrun.isDigit_bare, hnone.1, hnone.2, List.append_nil]
  exact ⟨rfl, rfl⟩

end Translucency.Numeral
