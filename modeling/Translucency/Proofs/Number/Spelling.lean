import Translucency.Proofs.Number.DigitGroups
import Translucency.Proofs.Number.Rounding

/-!
# The grammar of floating point numerals

Which texts spell a floating point number is told by a grammar that puts texts together: a sign,
then digits with or without a point and an exponent, or one of three words instead, with blanks
around the whole (`Spells`). Digits may be of any script, and have underscores between them. They
spell the number that is nearest to the decimal (`Binary64.RoundsDecimal`).

Here the parts of the grammar are compared with the parts of the reader, from the right to the
left: what follows the digits (`exponent?_bare_iff`), the digits with it (`decimal?_bare_iff`) and
the sign in front (`exists_sign`). Each is about what the reader keeps of a text (`bare`) whose
underscores are in order.
-/

namespace Translucency.Numeral

open Text

/-! ## The grammar -/

/-- A sign, or none, and whether it is a minus. -/
inductive Sign : List Char → Bool → Prop
  | absent : Sign [] false
  | plus : Sign ['+'] false
  | minus : Sign ['-'] true

/-- Digits before and after a point, with some on one side at least, or digits without a point. -/
inductive Mantissa : List Char → List Nat → List Nat → Prop
  | whole {s : List Char} {vs : List Nat} (h : Digits s vs) : Mantissa s vs []
  | point {s t : List Char} {vs ws : List Nat} (hs : Run s vs) (ht : Run t ws)
    (hne : vs ++ ws ≠ []) : Mantissa (s ++ '.' :: t) vs ws

/-- An exponent, or none, and its value. -/
inductive Exponent : List Char → Int → Prop
  | absent : Exponent [] 0
  | marked {c : Char} {sign s : List Char} {negative : Bool} {vs : List Nat}
    (hc : c = 'e' ∨ c = 'E') (hsign : Sign sign negative) (h : Digits s vs) :
    Exponent (c :: (sign ++ s)) (signed negative (amount vs))

/-- A floating point number without blanks around it. -/
inductive FloatText : List Char → Binary64 → Prop
  | decimal {sign m e : List Char} {negative : Bool} {vs ws : List Nat} {k : Int} {x : Binary64}
    (hsign : Sign sign negative) (hm : Mantissa m vs ws) (he : Exponent e k)
    (hx : Binary64.RoundsDecimal negative (amount (vs ++ ws)) (k - ws.length) x) :
    FloatText (sign ++ (m ++ e)) x
  | infinity {sign word : List Char} {negative : Bool} (hsign : Sign sign negative)
    (hword : word.map Char.toLower = "inf".toList ∨ word.map Char.toLower = "infinity".toList) :
    FloatText (sign ++ word) (.infinity negative)
  | nan {sign word : List Char} {negative : Bool} (hsign : Sign sign negative)
    (hword : word.map Char.toLower = "nan".toList) : FloatText (sign ++ word) .nan

/-- Whether a text spells a number: it is the text of one, with blanks around it or not. -/
def Spells (s : List Char) (x : Binary64) : Prop :=
  ∃ left text right, s = left ++ (text ++ right) ∧ (∀ c ∈ left, isMargin c = true) ∧
    (∀ c ∈ right, isMargin c = true) ∧ FloatText text x

/-! ## Signs -/

/-- Whether a text begins with something else than a sign, or is empty. -/
def NoSignFirst (s : List Char) : Prop := s.head? ≠ some '+' ∧ s.head? ≠ some '-'

theorem splitSign_of_noSign {s : List Char} (h : NoSignFirst s) : splitSign s = (false, s) := by
  unfold splitSign
  split
  · exact absurd rfl h.2
  · exact absurd rfl h.1
  · rfl

section Sign

variable {s sign : List Char} {negative : Bool}

theorem Sign.splitSign_bare (hsign : Sign sign negative) (h : InOrder s) (hno : NoSignFirst s) :
    splitSign (bare (sign ++ s)) = (negative, bare s) := by
  have hbare : NoSignFirst (bare s) := by
    cases s with
    | nil => exact ⟨nofun, nofun⟩
    | cons c s =>
      rw [bare_cons h.ne_underscore, NoSignFirst, List.head?_cons, Ne, Option.some_inj,
        ascii_eq_iff (by decide), Ne, Option.some_inj, ascii_eq_iff (by decide)]
      exact ⟨fun hc => hno.1 (by rw [hc]; rfl), fun hc => hno.2 (by rw [hc]; rfl)⟩
  cases hsign with
  | absent => exact splitSign_of_noSign hbare
  | plus => rfl
  | minus => rfl

theorem Sign.inOrder_iff (hsign : Sign sign negative) : InOrder (sign ++ s) ↔ InOrder s := by
  cases hsign with
  | absent => exact Iff.rfl
  | plus => exact inOrder_cons_plain (by decide) (by decide)
  | minus => exact inOrder_cons_plain (by decide) (by decide)

/-- Every text begins with a sign or none. -/
theorem exists_sign (h : InOrder s) : ∃ sign rest negative, s = sign ++ rest ∧ Sign sign negative ∧
    InOrder rest ∧ splitSign (bare s) = (negative, bare rest) := by
  by_cases hminus : s.head? = some '-'
  · obtain ⟨rest, rfl⟩ := List.head?_eq_some_iff.1 hminus
    exact ⟨['-'], rest, true, rfl, .minus, Sign.minus.inOrder_iff.1 h, rfl⟩
  · by_cases hplus : s.head? = some '+'
    · obtain ⟨rest, rfl⟩ := List.head?_eq_some_iff.1 hplus
      exact ⟨['+'], rest, false, rfl, .plus, Sign.plus.inOrder_iff.1 h, rfl⟩
    · exact ⟨[], s, false, rfl, .absent, h, Sign.absent.splitSign_bare h ⟨hplus, hminus⟩⟩

end Sign

/-- Digits begin with no sign. -/
theorem Digits.noSignFirst {s : List Char} {vs : List Nat} (h : Digits s vs) : NoSignFirst s := by
  obtain ⟨c, t, v, -, rfl, -, hv⟩ := h.exists_cons
  constructor
  · rintro ⟨⟩
    cases hv
  · rintro ⟨⟩
    cases hv

/-! ## Exponents -/

theorem Digits.inOrder {s : List Char} {vs : List Nat} (h : Digits s vs) : InOrder s := by
  rw [← List.append_nil s]
  exact h.inOrder_append inOrder_nil

theorem plain_of_mark {c : Char} (hc : c = 'e' ∨ c = 'E') : c ≠ '_' ∧ decimalValue? c = none := by
  rcases hc with rfl | rfl
  · decide
  · decide

theorem ascii_mark_iff {c : Char} : ascii c = 'e' ∨ ascii c = 'E' ↔ c = 'e' ∨ c = 'E' := by
  rw [ascii_eq_iff (by decide), ascii_eq_iff (by decide)]

theorem Exponent.inOrder {e : List Char} {k : Int} (h : Exponent e k) : InOrder e := by
  cases h with
  | absent => exact inOrder_nil
  | marked hc hsign h =>
    obtain ⟨hplain, hvalue⟩ := plain_of_mark hc
    exact (inOrder_cons_plain hplain hvalue).2 (hsign.inOrder_iff.2 h.inOrder)

/-- The reader's test for digits finds the runs that are not empty. -/
theorem digits_iff_bare {s : List Char} (h : InOrder s) :
    (!(bare s).isEmpty && (bare s).all Char.isDigit) = true ↔ ∃ vs, Digits s vs := by
  rw [Bool.and_eq_true, Bool.not_eq_true', List.isEmpty_eq_false_iff, List.all_eq_true]
  constructor
  · rintro ⟨hne, hall⟩
    obtain ⟨run, rest, vs, rfl, hrun, hrest, hfirst⟩ := exists_run h
    -- All that is kept are digits, so the run is the whole text.
    have hnil : bare rest = [] := by
      have hdrop := (span_bare hrun hrest hfirst).2
      rwa [List.dropWhile_eq_nil_iff.2 hall, eq_comm] at hdrop
    cases rest with
    | nil =>
      rw [List.append_nil] at hne ⊢
      exact ⟨vs, hrun.digits fun hvs => hne (by rw [hrun.bare_eq, hvs]; rfl)⟩
    | cons c rest =>
      rw [bare_cons hrest.ne_underscore] at hnil
      cases hnil
  · rintro ⟨vs, hdigits⟩
    refine ⟨?_, (show Run s vs from .inr hdigits).isDigit_bare⟩
    obtain ⟨_, _, _, _, -, rfl, -⟩ := hdigits.exists_cons
    rw [hdigits.bare_eq]
    exact nofun

theorem Run.value_bare {s : List Char} {vs : List Nat} (h : Run s vs) :
    value (bare s) = amount vs := by
  rw [h.bare_eq, value_eq_amount h.lt]

/-- The reader of exponents against the grammar. -/
theorem exponent?_bare_iff {e : List Char} (h : InOrder e) {k : Int} :
    exponent? (bare e) = some k ↔ Exponent e k := by
  constructor
  · intro hread
    cases e with
    | nil =>
      cases hread
      exact .absent
    | cons c e =>
      rw [bare_cons h.ne_underscore, exponent?] at hread
      split at hread
      · next hmark =>
        have hc := ascii_mark_iff.1 hmark
        obtain ⟨hplain, hvalue⟩ := plain_of_mark hc
        obtain ⟨sign, rest, negative, rfl, hsign, hrest, hsplit⟩ :=
          exists_sign ((inOrder_cons_plain hplain hvalue).1 h)
        rw [hsplit] at hread
        obtain ⟨hall, hk⟩ := Option.ite_none_right_eq_some.1 hread
        obtain ⟨vs, hdigits⟩ := (digits_iff_bare hrest).1 hall
        rw [Run.value_bare (.inr hdigits)] at hk
        cases hk
        exact .marked hc hsign hdigits
      · cases hread
  · rintro (_ | ⟨hc, hsign, hdigits⟩)
    · rfl
    · have hsplit := hsign.splitSign_bare hdigits.inOrder hdigits.noSignFirst
      have hall := (digits_iff_bare hdigits.inOrder).2 ⟨_, hdigits⟩
      rw [bare_cons (plain_of_mark hc).1, exponent?, if_pos (ascii_mark_iff.2 hc), hsplit,
        ← Run.value_bare (.inr hdigits)]
      exact if_pos hall

/-! ## Decimals -/

/-- What follows the digits of a decimal begins with neither a digit nor a point. -/
theorem Exponent.first {e : List Char} {k : Int} (h : Exponent e k) :
    NoDigitFirst e ∧ e.head? ≠ some '.' := by
  cases h with
  | absent => exact ⟨nofun, nofun⟩
  | marked hc hsign h =>
    constructor
    · rintro _ ⟨⟩
      exact (plain_of_mark hc).2
    · rintro ⟨⟩
      revert hc
      decide

theorem Run.isEmpty_bare {s : List Char} {vs : List Nat} (h : Run s vs) :
    (bare s).isEmpty = vs.isEmpty := by
  rw [h.bare_eq, List.isEmpty_map]

section Decimal

variable {s t rest : List Char} {vs ws : List Nat}

theorem decimal?_whole (hs : Run s vs) (hrest : InOrder rest) (hfirst : NoDigitFirst rest)
    (hpoint : rest.head? ≠ some '.') (negative : Bool) :
    decimal? negative (bare (s ++ rest)) =
      if vs = [] then none
      else (exponent? (bare rest)).map fun k => .ofDecimal negative (amount vs) k := by
  obtain ⟨htake, hdrop⟩ := span_bare hs hrest hfirst
  have hnone : ∀ after, bare rest ≠ '.' :: after := by
    intro after hbare
    cases rest with
    | nil => cases hbare
    | cons c rest =>
      rw [bare_cons hrest.ne_underscore] at hbare
      refine hpoint ?_
      rw [(ascii_eq_iff (by decide)).1 (List.cons.inj hbare).1]
      rfl
  simp only [decimal?, htake, hdrop, hs.isEmpty_bare, List.isEmpty_nil, Bool.and_true,
    List.isEmpty_iff, List.append_nil, hs.value_bare, List.length_nil, Int.natCast_zero,
    Int.sub_zero]

theorem decimal?_point (hs : Run s vs) (ht : Run t ws) (hrest : InOrder rest)
    (hfirst : NoDigitFirst rest) (negative : Bool) :
    decimal? negative (bare (s ++ '.' :: (t ++ rest))) =
      if vs ++ ws = [] then none
      else (exponent? (bare rest)).map fun k =>
        .ofDecimal negative (amount (vs ++ ws)) (k - ws.length) := by
  have hafter := ht.inOrder_append hrest
  have hpoint : InOrder ('.' :: (t ++ rest)) :=
    (inOrder_cons_plain (by decide) (by decide)).2 hafter
  obtain ⟨htake, hdrop⟩ := span_bare hs hpoint (by rintro _ ⟨⟩; decide)
  obtain ⟨htake', hdrop'⟩ := span_bare ht hrest hfirst
  have hbare : bare ('.' :: (t ++ rest)) = '.' :: bare (t ++ rest) := rfl
  have hvalue : value (bare s ++ bare t) = amount (vs ++ ws) := by
    rw [hs.bare_eq, ht.bare_eq, ← List.map_append, value_eq_amount]
    exact fun v hv => (List.mem_append.1 hv).elim (hs.lt v) (ht.lt v)
  have hlength : (bare t).length = ws.length := by rw [ht.bare_eq, List.length_map]
  rw [decimal?, htake, hdrop, hbare]
  simp only [htake', hdrop', hs.isEmpty_bare, ht.isEmpty_bare, hvalue, hlength,
    Bool.and_eq_true, List.isEmpty_iff, List.append_eq_nil_iff]

/-- The reader of decimals against the grammar. -/
theorem decimal?_bare_iff (h : InOrder s) {negative : Bool} {x : Binary64} :
    decimal? negative (bare s) = some x ↔
      ∃ m e vs ws k, s = m ++ e ∧ Mantissa m vs ws ∧ Exponent e k ∧
        Binary64.RoundsDecimal negative (amount (vs ++ ws)) (k - ws.length) x := by
  simp only [Binary64.roundsDecimal_iff]
  constructor
  · intro hread
    obtain ⟨m, rest, vs, rfl, hm, hrest, hfirst⟩ := exists_run h
    -- The reader looks for a point behind the first run, and for a second run behind the point.
    by_cases hpoint : rest.head? = some '.'
    · obtain ⟨rest, rfl⟩ := List.head?_eq_some_iff.1 hpoint
      obtain ⟨t, e, ws, rfl, ht, he, hfirst⟩ :=
        exists_run ((inOrder_cons_plain (by decide) (by decide)).1 hrest)
      rw [decimal?_point hm ht he hfirst] at hread
      obtain ⟨hne, hread⟩ := Option.ite_none_left_eq_some.1 hread
      obtain ⟨k, hk, rfl⟩ := Option.map_eq_some_iff.1 hread
      exact ⟨m ++ '.' :: t, e, vs, ws, k, by simp, .point hm ht hne,
        (exponent?_bare_iff he).1 hk, rfl⟩
    · rw [decimal?_whole hm hrest hfirst hpoint] at hread
      obtain ⟨hne, hread⟩ := Option.ite_none_left_eq_some.1 hread
      obtain ⟨k, hk, rfl⟩ := Option.map_eq_some_iff.1 hread
      exact ⟨m, rest, vs, [], k, rfl, .whole (hm.digits hne), (exponent?_bare_iff hrest).1 hk,
        by simp⟩
  · rintro ⟨m, e, vs, ws, k, rfl, hm, he, rfl⟩
    have hk := (exponent?_bare_iff he.inOrder).2 he
    cases hm with
    | whole hm =>
      have hne : vs ≠ [] := by
        obtain ⟨_, _, _, _, -, rfl, -⟩ := hm.exists_cons
        exact nofun
      rw [decimal?_whole (.inr hm) he.inOrder he.first.1 he.first.2, if_neg hne, hk]
      simp
    | point hs ht hne =>
      rw [List.append_assoc, List.cons_append, decimal?_point hs ht he.inOrder he.first.1,
        if_neg hne, hk]
      rfl

end Decimal

end Translucency.Numeral
