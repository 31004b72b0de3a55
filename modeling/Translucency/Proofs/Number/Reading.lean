import Translucency.Proofs.Number.Spelling

/-!
# Reading floating point numerals

The reader takes a text apart in passes, and each pass changes the text for the next one: the blanks
go first, then digits of other scripts become ASCII digits, then the underscores go, and in what is
left it looks for a sign, for three words and for a decimal. The main statement is that it reads
exactly the texts of the grammar, as the number that the grammar says (`float?_eq_some_iff`).

No pass can undo the work of another, because the parts of the grammar do not share their first
characters: digits and the point begin no word, a sign begins neither, and a blank is in none of
them (`FloatText.isFloatChar`).
-/

namespace Translucency.Numeral

open Text

/-! ## Words -/

theorem toLower_eq_self {c : Char} (h : ¬ (65 ≤ c.toNat ∧ c.toNat ≤ 90)) : c.toLower = c :=
  dif_neg h

theorem toLower_of_value {c : Char} {v : Nat} (h : decimalValue? c = some v) : c.toLower = c := by
  obtain ⟨start, hstart, hlt, hc⟩ := exists_zero_of_value h
  -- No script has its digits among the ASCII capitals.
  have hall : ∀ start ∈ decimalZeros, start + 10 ≤ 65 ∨ 90 < start := by decide
  have hzero := hall start hstart
  exact toLower_eq_self (by omega)

/-- Whether there is neither a digit nor an underscore in a text. -/
def IsWord (s : List Char) : Prop := ∀ c ∈ s, c ≠ '_' ∧ decimalValue? c = none

instance : DecidablePred IsWord := fun s => List.decidableBAll _ s

theorem IsWord.inOrder {s : List Char} (h : IsWord s) : InOrder s := by
  induction s with
  | nil => exact inOrder_nil
  | cons c s ih =>
    obtain ⟨hc, hs⟩ := List.forall_mem_cons.1 h
    exact (inOrder_cons_plain hc.1 hc.2).2 (ih hs)

theorem IsWord.bare_eq {s : List Char} (h : IsWord s) : bare s = s := by
  induction s with
  | nil => rfl
  | cons c s ih =>
    obtain ⟨hc, hs⟩ := List.forall_mem_cons.1 h
    rw [bare_cons hc.1, ascii_of_none hc.2, ih hs]

/-- A text of which no digits are kept has no underscores either, if they are in order. -/
theorem isWord_of_bare {s : List Char} (h : InOrder s) (hbare : ∀ c ∈ bare s, c.isDigit = false) :
    IsWord s := by
  induction s with
  | nil => exact nofun
  | cons c s ih =>
    rw [bare_cons h.ne_underscore] at hbare
    obtain ⟨hc, hs⟩ := List.forall_mem_cons.1 hbare
    rw [isDigit_ascii, Option.isSome_eq_false_iff, Option.isNone_iff_eq_none] at hc
    exact List.forall_mem_cons.2
      ⟨⟨h.ne_underscore, hc⟩, ih ((inOrder_cons_plain h.ne_underscore hc).1 h) hs⟩

theorem isWord_of_toLower {s : List Char} (h : IsWord (s.map Char.toLower)) : IsWord s := by
  intro c hc
  have hlower := h c.toLower (List.mem_map_of_mem hc)
  refine ⟨?_, ?_⟩
  · rintro rfl
    exact hlower.1 rfl
  · -- A digit is its own lower case.
    rw [Option.eq_none_iff_forall_ne_some]
    intro v hv
    rw [toLower_of_value hv, hv] at hlower
    cases hlower.2

/-- A word is recognized in what is kept of a text. -/
theorem word_bare_iff {s w : List Char} (h : InOrder s) (hw : IsWord w) :
    (bare s).map Char.toLower = w ↔ s.map Char.toLower = w := by
  constructor
  · -- A digit that is kept would be found in the word. So there is none, and nothing was changed.
    rintro rfl
    have hs : IsWord s := by
      refine isWord_of_bare h fun c hc => ?_
      rw [← Bool.not_eq_true]
      intro hdigit
      have hnone := isWord_of_toLower hw c hc
      rw [decimalValue?_of_isDigit hdigit] at hnone
      cases hnone.2
    rw [hs.bare_eq]
  · rintro rfl
    rw [(isWord_of_toLower hw).bare_eq]

/-! ## Blanks around a numeral -/

theorem isBlank_of_value {c : Char} {v : Nat} (h : decimalValue? c = some v) :
    isBlank c = false := by
  have hall : ∀ start ∈ decimalZeros, ∀ span ∈ blankSpans,
      start + 10 ≤ span.1 ∨ span.2 < start := by decide +kernel
  obtain ⟨start, hstart, hlt, hc⟩ := exists_zero_of_value h
  rw [isBlank, ← Bool.not_eq_true, Spans.covers_iff]
  rintro ⟨span, hspan, hfrom, hto⟩
  have hapart := hall start hstart span hspan
  omega

theorem toLower_of_isBlank {c : Char} (h : isBlank c = true) : c.toLower = c := by
  have hall : ∀ n ≤ 90, 65 ≤ n → blankSpans.covers n = false := by decide
  refine toLower_eq_self fun ⟨hfrom, hto⟩ => ?_
  rw [isBlank, hall _ hto hfrom] at h
  cases h

/-- What floating point numbers are spelled with besides digits, letters in lower case. -/
def floatMarks : List Char := "_+-.efinaty".toList

/-- The characters that floating point numbers are spelled with. -/
def IsFloatChar (c : Char) : Prop :=
  (∃ v, decimalValue? c = some v) ∨ c.toLower ∈ floatMarks

theorem IsFloatChar.isMargin_eq {c : Char} (h : IsFloatChar c) : isMargin c = false := by
  have hblank : isBlank c = false := by
    rcases h with ⟨v, hv⟩ | h
    · exact isBlank_of_value hv
    · -- A blank is its own lower case, so it would be one of the marks itself.
      have hnone : floatMarks.all (fun c => !isBlank c) = true := by decide
      rw [← Bool.not_eq_true]
      intro hblank
      rw [toLower_of_isBlank hblank] at h
      have hc := List.all_eq_true.1 hnone c h
      rw [hblank] at hc
      cases hc
  rw [isMargin, hblank, Bool.false_and]

theorem Digits.isFloatChar {s : List Char} {vs : List Nat} (h : Digits s vs) :
    ∀ c ∈ s, IsFloatChar c := by
  induction h with
  | last h => exact List.forall_mem_singleton.2 (.inl ⟨_, h⟩)
  | digit h _ ih => exact List.forall_mem_cons.2 ⟨.inl ⟨_, h⟩, ih⟩
  | underscore h _ ih =>
    exact List.forall_mem_cons.2 ⟨.inl ⟨_, h⟩, List.forall_mem_cons.2 ⟨.inr (by decide), ih⟩⟩

theorem Run.isFloatChar {s : List Char} {vs : List Nat} (h : Run s vs) :
    ∀ c ∈ s, IsFloatChar c := by
  rcases h with ⟨rfl, -⟩ | h
  · exact nofun
  · exact h.isFloatChar

theorem Sign.isFloatChar {s : List Char} {negative : Bool} (h : Sign s negative) :
    ∀ c ∈ s, IsFloatChar c := by
  cases h with
  | absent => exact nofun
  | plus => exact List.forall_mem_singleton.2 (.inr (by decide))
  | minus => exact List.forall_mem_singleton.2 (.inr (by decide))

theorem Mantissa.isFloatChar {s : List Char} {vs ws : List Nat} (h : Mantissa s vs ws) :
    ∀ c ∈ s, IsFloatChar c := by
  cases h with
  | whole h => exact h.isFloatChar
  | point hs ht =>
    exact List.forall_mem_append.2 ⟨hs.isFloatChar,
      List.forall_mem_cons.2 ⟨.inr (by decide), ht.isFloatChar⟩⟩

theorem Exponent.isFloatChar {s : List Char} {k : Int} (h : Exponent s k) :
    ∀ c ∈ s, IsFloatChar c := by
  cases h with
  | absent => exact nofun
  | marked hc hsign h =>
    refine List.forall_mem_cons.2 ⟨?_, List.forall_mem_append.2 ⟨hsign.isFloatChar, h.isFloatChar⟩⟩
    rcases hc with rfl | rfl
    · exact .inr (by decide)
    · exact .inr (by decide)

theorem isFloatChar_of_word {s w : List Char} (h : s.map Char.toLower = w)
    (hw : w.all floatMarks.contains = true) : ∀ c ∈ s, IsFloatChar c := by
  intro c hc
  subst h
  exact .inr (List.contains_iff_mem.1 (List.all_eq_true.1 hw _ (List.mem_map_of_mem hc)))

theorem FloatText.isFloatChar {s : List Char} {x : Binary64} (h : FloatText s x) :
    ∀ c ∈ s, IsFloatChar c := by
  cases h with
  | decimal hsign hm he =>
    exact List.forall_mem_append.2 ⟨hsign.isFloatChar,
      List.forall_mem_append.2 ⟨hm.isFloatChar, he.isFloatChar⟩⟩
  | infinity hsign hword =>
    refine List.forall_mem_append.2 ⟨hsign.isFloatChar, ?_⟩
    rcases hword with hword | hword
    · exact isFloatChar_of_word hword (by decide)
    · exact isFloatChar_of_word hword (by decide)
  | nan hsign hword =>
    exact List.forall_mem_append.2 ⟨hsign.isFloatChar, isFloatChar_of_word hword (by decide)⟩

/-- What is left of a text is what stands between its margins. -/
theorem exists_margins (s : List Char) : ∃ left text right, s = left ++ (text ++ right) ∧
    (∀ c ∈ left, isMargin c = true) ∧ (∀ c ∈ right, isMargin c = true) ∧
      plain s = text.map ascii := by
  have hleft : s.takeWhile isMargin ++ s.dropWhile isMargin = s := List.takeWhile_append_dropWhile
  have hright : ((s.dropWhile isMargin).reverse.dropWhile isMargin).reverse ++
      ((s.dropWhile isMargin).reverse.takeWhile isMargin).reverse = s.dropWhile isMargin := by
    rw [← List.reverse_append, List.takeWhile_append_dropWhile, List.reverse_reverse]
  refine ⟨_, _, _, by rw [hright, hleft], fun c => List.mem_takeWhile_imp, fun c hc => ?_, rfl⟩
  exact List.mem_takeWhile_imp (List.mem_reverse.1 hc)

theorem dropWhile_margins {left text : List Char} (hleft : ∀ c ∈ left, isMargin c = true)
    (htext : ∀ c ∈ text.head?, isMargin c = false) : (left ++ text).dropWhile isMargin = text := by
  rw [List.dropWhile_append_of_pos hleft]
  cases text with
  | nil => rfl
  | cons c text => exact List.dropWhile_cons_of_neg (by rw [htext c rfl]; exact Bool.false_ne_true)

theorem plain_of_margins {left text right : List Char} (hleft : ∀ c ∈ left, isMargin c = true)
    (hright : ∀ c ∈ right, isMargin c = true) (htext : ∀ c ∈ text, isMargin c = false) :
    plain (left ++ (text ++ right)) = text.map ascii := by
  -- From behind, what comes first is the margin on the right.
  have hback : ((text ++ right).reverse.dropWhile isMargin).reverse = text := by
    rw [List.reverse_append, dropWhile_margins (fun c hc => hright c (List.mem_reverse.1 hc))
      fun c hc => htext c (List.mem_reverse.1 (List.mem_of_mem_head? hc)), List.reverse_reverse]
  have hfront : ((left ++ (text ++ right)).dropWhile isMargin).reverse.dropWhile isMargin =
      (text ++ right).reverse.dropWhile isMargin := by
    cases text with
    | nil =>
      -- There are margins only.
      have hall : ∀ c ∈ left ++ ([] ++ right), isMargin c = true :=
        List.forall_mem_append.2 ⟨hleft, hright⟩
      rw [List.dropWhile_eq_nil_iff.2 hall, eq_comm]
      exact List.dropWhile_eq_nil_iff.2 fun c hc => hright c (List.mem_reverse.1 hc)
    | cons c text =>
      rw [dropWhile_margins hleft]
      rintro _ ⟨⟩
      exact htext c (List.mem_cons_self ..)
  rw [← congrArg (List.map ascii) hback, ← hfront]
  rfl

/-! ## The reader -/

/-- A mantissa begins with a digit or with the point. -/
theorem Mantissa.exists_cons {s : List Char} {vs ws : List Nat} (h : Mantissa s vs ws) :
    ∃ c t, s = c :: t ∧ (c = '.' ∨ ∃ v, decimalValue? c = some v) := by
  cases h with
  | whole h =>
    obtain ⟨c, t, v, -, rfl, -, hv⟩ := h.exists_cons
    exact ⟨c, t, rfl, .inr ⟨v, hv⟩⟩
  | point hs =>
    rcases hs with ⟨rfl, -⟩ | hs
    · exact ⟨_, _, rfl, .inl rfl⟩
    · obtain ⟨c, t, v, -, rfl, -, hv⟩ := hs.exists_cons
      exact ⟨c, _, rfl, .inr ⟨v, hv⟩⟩

theorem Mantissa.inOrder_append {s e : List Char} {vs ws : List Nat} (h : Mantissa s vs ws)
    (he : InOrder e) : InOrder (s ++ e) := by
  cases h with
  | whole h => exact h.inOrder_append he
  | point hs ht =>
    rw [List.append_assoc]
    exact hs.inOrder_append ((inOrder_cons_plain (by decide) (by decide)).2 (ht.inOrder_append he))

section Mantissa

variable {s e : List Char} {vs ws : List Nat} (h : Mantissa s vs ws)

include h

theorem Mantissa.noSignFirst : NoSignFirst (s ++ e) := by
  obtain ⟨c, t, rfl, hc⟩ := h.exists_cons
  have hplain : c ≠ '+' ∧ c ≠ '-' := by
    rcases hc with rfl | ⟨v, hv⟩
    · decide
    · exact ⟨(by rintro rfl; cases hv), (by rintro rfl; cases hv)⟩
  exact ⟨mt Option.some_inj.1 hplain.1, mt Option.some_inj.1 hplain.2⟩

theorem Mantissa.toLower_ne {w : List Char} (hw : IsWord w) (hpoint : '.' ∉ w) :
    (s ++ e).map Char.toLower ≠ w := by
  rintro rfl
  obtain ⟨c, t, rfl, rfl | ⟨v, hv⟩⟩ := h.exists_cons
  · exact hpoint (List.mem_cons_self ..)
  · have hnone := (isWord_of_toLower hw c (List.mem_cons_self ..)).2
    rw [hv] at hnone
    cases hnone

end Mantissa

theorem noSignFirst_of_toLower {s w : List Char} (h : s.map Char.toLower = w) (hplus : '+' ∉ w)
    (hminus : '-' ∉ w) : NoSignFirst s := by
  subst h
  constructor
  · exact fun hs => hplus (List.mem_map.2 ⟨'+', List.mem_of_mem_head? hs, rfl⟩)
  · exact fun hs => hminus (List.mem_map.2 ⟨'-', List.mem_of_mem_head? hs, rfl⟩)

/-- After the sign, the reader looks for the words, and then for a decimal. -/
theorem float?_of_plain {s text rest : List Char} {negative : Bool}
    (hplain : plain s = text.map ascii) (h : InOrder text)
    (hsplit : splitSign (bare text) = (negative, bare rest)) :
    float? s =
      if (bare rest).map Char.toLower = "inf".toList ∨
          (bare rest).map Char.toLower = "infinity".toList then some (.infinity negative)
      else if (bare rest).map Char.toLower = "nan".toList then some .nan
      else decimal? negative (bare rest) := by
  have hword : ∀ word : String, String.ofList ((bare rest).map Char.toLower) = word ↔
      (bare rest).map Char.toLower = word.toList := fun word => by
    rw [← String.toList_inj, String.toList_ofList]
  have hbare : (text.map ascii).filter (· != '_') = bare text := rfl
  have horder : underscoresBetween ' ' (text.map ascii) = true := h
  simp only [float?, hplain, horder, if_true, hbare, hsplit, hword]

/-- What the reader reads, once the blanks are away, is what the grammar says. -/
theorem float?_iff_floatText {s text : List Char} {x : Binary64}
    (hplain : plain s = text.map ascii) : float? s = some x ↔ FloatText text x := by
  have hinf : IsWord "inf".toList := by decide
  have hinfinity : IsWord "infinity".toList := by decide
  have hnan : IsWord "nan".toList := by decide
  constructor
  · intro hread
    have h : InOrder text := by
      unfold float? at hread
      rw [hplain] at hread
      exact (Option.ite_none_right_eq_some.1 hread).1
    obtain ⟨sign, rest, negative, rfl, hsign, hrest, hsplit⟩ := exists_sign h
    -- The words are looked for in what is kept of the text, but they are found in the text itself.
    rw [float?_of_plain hplain h hsplit] at hread
    simp only [word_bare_iff hrest hinf, word_bare_iff hrest hinfinity,
      word_bare_iff hrest hnan] at hread
    split at hread
    · next hword =>
      cases hread
      exact .infinity hsign hword
    · split at hread
      · next hword =>
        cases hread
        exact .nan hsign hword
      · obtain ⟨m, e, vs, ws, k, rfl, hm, he, hx⟩ := (decimal?_bare_iff hrest).1 hread
        exact .decimal hsign hm he hx
  · intro h
    cases h with
    | decimal hsign hm he hx =>
      -- A mantissa begins like none of the words, so the reader comes to the decimal.
      have hrest := hm.inOrder_append he.inOrder
      have hsplit := hsign.splitSign_bare hrest hm.noSignFirst
      rw [float?_of_plain hplain (hsign.inOrder_iff.2 hrest) hsplit]
      simp only [word_bare_iff hrest hinf, word_bare_iff hrest hinfinity, word_bare_iff hrest hnan]
      rw [if_neg (not_or.2 ⟨hm.toLower_ne hinf (by decide), hm.toLower_ne hinfinity (by decide)⟩),
        if_neg (hm.toLower_ne hnan (by decide))]
      exact (decimal?_bare_iff hrest).2 ⟨_, _, _, _, _, rfl, hm, he, hx⟩
    | @infinity sign word negative hsign hword =>
      -- There is nothing in a word that the passes before would change.
      have hword' : IsWord word ∧ NoSignFirst word := by
        rcases hword with hword | hword
        · exact ⟨isWord_of_toLower (hword ▸ hinf),
            noSignFirst_of_toLower hword (by decide) (by decide)⟩
        · exact ⟨isWord_of_toLower (hword ▸ hinfinity),
            noSignFirst_of_toLower hword (by decide) (by decide)⟩
      have hrest := hword'.1.inOrder
      rw [float?_of_plain hplain (hsign.inOrder_iff.2 hrest)
        (hsign.splitSign_bare hrest hword'.2), hword'.1.bare_eq, if_pos hword]
    | @nan sign word negative hsign hword =>
      have hword' : IsWord word := isWord_of_toLower (hword ▸ hnan)
      have hno := noSignFirst_of_toLower hword (by decide) (by decide)
      have hrest := hword'.inOrder
      rw [float?_of_plain hplain (hsign.inOrder_iff.2 hrest) (hsign.splitSign_bare hrest hno),
        hword'.bare_eq, hword]
      rfl

/-- **The reader of floating point numbers reads what the grammar spells.** -/
theorem float?_eq_some_iff (s : List Char) (x : Binary64) : float? s = some x ↔ Spells s x := by
  constructor
  · intro hread
    obtain ⟨left, text, right, hs, hleft, hright, hplain⟩ := exists_margins s
    exact ⟨left, text, right, hs, hleft, hright, (float?_iff_floatText hplain).1 hread⟩
  · rintro ⟨left, text, right, rfl, hleft, hright, h⟩
    have hplain := plain_of_margins hleft hright fun c hc => (h.isFloatChar c hc).isMargin_eq
    exact (float?_iff_floatText hplain).2 h

end Translucency.Numeral
