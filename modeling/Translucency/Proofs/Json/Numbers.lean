import Translucency.Json.Reader
import Translucency.Opacity.Clamp
import Translucency.Proofs.Number.Magnitude
import Translucency.Proofs.Number.Numerals

/-!
# Numbers as a script writes them

A script writes a number as digits, with a fraction or an exponent where it needs them. Numbers that
are written as whole numbers have at most 21 digits, as larger ones get an exponent. What is written
so is read to its end and no further (`NumberText.scalar?_append`).
-/

namespace Translucency.Json

/-- A number as a script writes it. -/
structure NumberText where
  negative : Bool
  whole : List Char
  fraction : Option (List Char)
  /-- Whether the exponent is negative, and its digits. -/
  exponent : Option (Bool × List Char)
  whole_digits : ∀ c ∈ whole, c.isDigit = true
  whole_first : whole = ['0'] ∨ whole ≠ [] ∧ whole.head? ≠ some '0'
  fraction_digits : ∀ ds ∈ fraction, ds ≠ [] ∧ ∀ c ∈ ds, c.isDigit = true
  exponent_digits : ∀ e ∈ exponent, e.2 ≠ [] ∧ ∀ c ∈ e.2, c.isDigit = true
  short : fraction = none → exponent = none → whole.length ≤ 21

namespace NumberText

/-- The text of the exponent. -/
def exponentText (n : NumberText) : List Char :=
  match n.exponent with
  | some (negative, ds) => 'e' :: (if negative then '-' else '+') :: ds
  | none => []

/-- The text of the fraction. -/
def fractionText (n : NumberText) : List Char :=
  match n.fraction with
  | some ds => '.' :: ds
  | none => []

/-- The exponent that is meant. -/
def exponent? (n : NumberText) : Option Int :=
  n.exponent.map fun e => Numeral.signed e.1 (Numeral.value e.2)

/-- The text of a number. -/
def text (n : NumberText) : List Char :=
  (if n.negative then ['-'] else []) ++ (n.whole ++ (n.fractionText ++ n.exponentText))

/-- The value that a number is read as. -/
def value (n : NumberText) : Value :=
  match n.fraction, n.exponent? with
  | none, none => .int (Numeral.signed n.negative (Numeral.value n.whole))
  | _, _ =>
    let ds := n.fraction.getD []
    .float (Binary64.ofDecimal n.negative (Numeral.value (n.whole ++ ds))
      (n.exponent?.getD 0 - ds.length))

theorem exists_whole_eq_cons (n : NumberText) : ∃ c rest, n.whole = c :: rest := by
  obtain h | ⟨hne, -⟩ := n.whole_first
  · exact ⟨_, _, h⟩
  · exact List.exists_cons_of_ne_nil hne

end NumberText

/-! ## Reading digits -/

/-- Whether a text does not go on with a number: it starts with no digit, point or exponent. -/
def Ends (s : List Char) : Prop :=
  ∀ c, s.head? = some c → c.isDigit = false ∧ c ≠ '.' ∧ c ≠ 'e' ∧ c ≠ 'E'

theorem digits_append {ds s : List Char} (hds : ∀ c ∈ ds, c.isDigit = true)
    (hs : ∀ c, s.head? = some c → c.isDigit = false) : digits (ds ++ s) = (ds, s) := by
  unfold digits
  rw [List.takeWhile_append_of_pos hds, List.dropWhile_append_of_pos hds]
  cases s with
  | nil => simp
  | cons c s => simp [hs c rfl]

theorem whole?_append (n : NumberText) {s : List Char}
    (hs : ∀ c, s.head? = some c → c.isDigit = false) :
    whole? (n.whole ++ s) = some (n.whole, s) := by
  obtain hzero | ⟨hne, hfirst⟩ := n.whole_first
  · rw [hzero]
    rfl
  · cases hwhole : n.whole with
    | nil => exact absurd hwhole hne
    | cons c rest =>
      have hdigits := n.whole_digits
      rw [hwhole] at hfirst hdigits
      -- A zero at the front would be read alone.
      have hc : c ≠ '0' := fun h => hfirst (by rw [h]; rfl)
      have hrest : ∀ d ∈ rest, d.isDigit = true := fun d hd =>
        hdigits d (List.mem_cons_of_mem c hd)
      rw [List.cons_append, whole?]
      · rw [if_pos (hdigits c (List.mem_cons_self ..)), digits_append hrest hs]
      · exact hc

/-! ## Reading the parts of a number -/

theorem exponent_append (n : NumberText) {s : List Char} (hs : Ends s) :
    exponent (n.exponentText ++ s) = (n.exponent?, s) := by
  unfold NumberText.exponentText NumberText.exponent?
  cases hexponent : n.exponent with
  | none =>
    cases s with
    | nil => rfl
    | cons c s =>
      obtain ⟨-, -, he, hE⟩ := hs c rfl
      have hletter : ¬ (c = 'e' ∨ c = 'E') := by
        rintro (h | h)
        · exact he h
        · exact hE h
      simp only [List.nil_append, exponent, if_neg hletter]
      rfl
  | some e =>
    obtain ⟨negative, ds⟩ := e
    -- The sign is always written, so the digits begin right after it.
    obtain ⟨hne, hds⟩ := n.exponent_digits _ hexponent
    have hread := digits_append hds fun c hc => (hs c hc).1
    have hsign : Numeral.splitSign ((if negative then '-' else '+') :: (ds ++ s)) =
        (negative, ds ++ s) := by
      cases negative <;> rfl
    simp only [List.cons_append, exponent, true_or, if_true, hsign, hread]
    simp [hne]

/-- The exponent starts with its letter, so it does not go on with digits or a point. -/
theorem head?_exponentText (n : NumberText) {s : List Char} (hs : Ends s) {c : Char}
    (hc : (n.exponentText ++ s).head? = some c) : c.isDigit = false ∧ c ≠ '.' := by
  unfold NumberText.exponentText at hc
  split at hc
  · cases hc
    exact ⟨by decide, by decide⟩
  · obtain ⟨hdigit, hpoint, -, -⟩ := hs c hc
    exact ⟨hdigit, hpoint⟩

theorem fraction_append (n : NumberText) {s : List Char}
    (hs : ∀ c, s.head? = some c → c.isDigit = false ∧ c ≠ '.') :
    fraction (n.fractionText ++ s) = (n.fraction, s) := by
  unfold NumberText.fractionText
  cases hfraction : n.fraction with
  | none =>
    cases s with
    | nil => rfl
    | cons c s =>
      rw [List.nil_append, fraction]
      rintro rest h
      cases h
      exact (hs '.' rfl).2 rfl
  | some ds =>
    obtain ⟨hne, hds⟩ := n.fraction_digits ds hfraction
    have hread := digits_append hds fun c hc => (hs c hc).1
    simp [fraction, hread, hne]

theorem head?_fractionText (n : NumberText) {s : List Char}
    (hs : ∀ c, s.head? = some c → c.isDigit = false) {c : Char}
    (hc : (n.fractionText ++ s).head? = some c) : c.isDigit = false := by
  unfold NumberText.fractionText at hc
  split at hc
  · cases hc
    decide
  · exact hs c hc

/-- What stands after the sign is read as the number. -/
theorem number?_append (n : NumberText) {s : List Char} (hs : Ends s) :
    number? n.negative (n.whole ++ (n.fractionText ++ (n.exponentText ++ s))) =
      some (n.value, s) := by
  have hexponent : ∀ c, (n.exponentText ++ s).head? = some c → c.isDigit = false ∧ c ≠ '.' :=
    fun c => head?_exponentText n hs
  have hfraction : ∀ c, (n.fractionText ++ (n.exponentText ++ s)).head? = some c →
      c.isDigit = false :=
    fun c => head?_fractionText n fun c hc => (hexponent c hc).1
  unfold number? NumberText.value
  rw [whole?_append n hfraction]
  simp only [Option.bind_eq_bind, Option.bind_some]
  rw [fraction_append n hexponent]
  simp only
  rw [exponent_append n hs]
  simp only
  cases hfraction : n.fraction with
  | some ds => cases n.exponent? <;> rfl
  | none =>
    cases hexponent : n.exponent? with
    | some e => rfl
    | none =>
      -- An integer that is written without an exponent is far from having too many digits.
      have hnone : n.exponent = none := by simpa [NumberText.exponent?] using hexponent
      have hfew : ¬ Numeral.digitLimit < n.whole.length := by
        have hshort := n.short hfraction hnone
        have hlimit : Numeral.digitLimit = 4300 := rfl
        omega
      simp only [if_neg hfew]
      rfl

/-- A digit opens a number, and nothing else. -/
theorem scalar?_of_isDigit {c : Char} (hc : c.isDigit = true) (s : List Char) :
    scalar? (c :: s) = number? false (c :: s) := by
  have hne : ∀ (d : Char) (rest : List Char), d.isDigit = false → c :: s ≠ d :: rest := by
    intro d rest hd h
    cases h
    rw [hc] at hd
    cases hd
  rw [scalar?]
  all_goals exact fun _ h => hne _ _ (by decide) h

/-- So does a minus before a digit. -/
theorem scalar?_minus_of_isDigit {c : Char} (hc : c.isDigit = true) (s : List Char) :
    scalar? ('-' :: c :: s) = number? true (c :: s) := by
  rw [scalar?]
  rintro rest h
  cases h
  cases hc

/-- **A number is read to its end**, where nothing follows that would go on with it. -/
theorem NumberText.scalar?_append (n : NumberText) {s : List Char} (hs : Ends s) :
    scalar? (n.text ++ s) = some (n.value, s) := by
  have hnumber := number?_append n hs
  obtain ⟨c, rest, hwhole⟩ := n.exists_whole_eq_cons
  have hc : c.isDigit = true := n.whole_digits c (by rw [hwhole]; exact List.mem_cons_self ..)
  rw [NumberText.text]
  simp only [List.append_assoc]
  rw [hwhole, List.cons_append] at hnumber ⊢
  cases hnegative : n.negative with
  | true =>
    rw [hnegative] at hnumber
    exact (scalar?_minus_of_isDigit hc _).trans hnumber
  | false =>
    rw [hnegative] at hnumber
    exact (scalar?_of_isDigit hc _).trans hnumber

/-! ## Size -/

/-- A number that a script writes is none that is too large to be read as a floating point
number. -/
theorem NumberText.exists_toBinary64 (n : NumberText) : ∃ x, n.value.toBinary64 = .ok x := by
  unfold NumberText.value
  split
  · next hfraction hexponent =>
    -- It is an integer of 21 digits at most, which is far below what is too large.
    have hnone : n.exponent = none := by simpa [NumberText.exponent?] using hexponent
    have hlt := Numeral.value_lt n.whole_digits
    have hpow : (10 : Nat) ^ n.whole.length ≤ 10 ^ 21 :=
      Nat.pow_le_pow_right (by decide) (n.short hfraction hnone)
    have hbound : (10 : Nat) ^ 21 < 2 ^ 70 := by decide
    have habs : (Numeral.signed n.negative (Numeral.value n.whole)).natAbs =
        Numeral.value n.whole := by
      unfold Numeral.signed
      split <;> simp
    have hfinite := Binary64.isFinite_ofInt (n := Numeral.signed n.negative
      (Numeral.value n.whole)) (k := 70) (by omega) (by decide)
    exact ⟨_, if_pos hfinite⟩
  · exact ⟨_, rfl⟩

end Translucency.Json
