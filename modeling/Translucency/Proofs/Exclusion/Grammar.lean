import Translucency.Exclusion.Patterns
import Translucency.Proofs.Text.LowerCase
import Translucency.Proofs.Text.Trim

/-!
# The grammar of exclusion lists

What an exclusion list means is said here without reading it from left to right, without a cache
and without compiled patterns: commas must not leave an empty place (`WellSpaced`), each piece
between commas is a token of one of three shapes (`Names`, `Hints`), and an identity is excluded if
a token speaks of it (`Excludes`). The main statement is `isExcluded_iff`: compiling the list and
asking the patterns gives exactly that.

The two halves are apart on purpose. `commaFlaw?_eq_none_iff` is about commas only and
`classify_eq_exact_iff`, `classify_eq_contains_iff` are about one token, so a change of a shape
touches one of them.
-/

namespace Translucency

namespace Exclusion

open Text

/-! ## Commas -/

/-- A list whose commas leave no empty place: after each comma, and after whatever blanks follow
it, there is something, and it is no comma. -/
def WellSpaced (list : List Char) : Prop :=
  ∀ before blanks after, (∀ c ∈ blanks, isBlank c = true) →
    list = before ++ ',' :: (blanks ++ after) → after ≠ [] ∧ after.head? ≠ some ','

/-- The first character of a text that is not blank. -/
theorem head?_dropWhile_isBlank_iff {s : List Char} {d : Char} (hd : isBlank d = false) :
    (s.dropWhile isBlank).head? = some d ↔
      ∃ blanks after, (∀ c ∈ blanks, isBlank c = true) ∧ s = blanks ++ d :: after := by
  constructor
  · intro h
    obtain ⟨blanks, hblanks, hs⟩ := exists_blanks_trimLeft s
    obtain ⟨after, hafter⟩ := List.head?_eq_some_iff.1 h
    exact ⟨blanks, after, hblanks, by rw [← hafter]; exact hs⟩
  · rintro ⟨blanks, after, hblanks, rfl⟩
    rw [List.dropWhile_append_of_pos hblanks]
    simp [hd]

/-- Two commas with only blanks between are found wherever they are. -/
theorem hasDoubleComma_iff (s : List Char) :
    hasDoubleComma s = true ↔
      ∃ before blanks after, (∀ c ∈ blanks, isBlank c = true) ∧
        s = before ++ ',' :: (blanks ++ ',' :: after) := by
  induction s with
  | nil => simp [hasDoubleComma]
  | cons c s ih =>
    rw [hasDoubleComma, Bool.or_eq_true, Bool.and_eq_true, beq_iff_eq, beq_iff_eq, ih,
      head?_dropWhile_isBlank_iff (by decide)]
    -- Either the character at the front is the first of the two commas, or both are in the rest.
    constructor
    · rintro (⟨rfl, blanks, after, hblanks, rfl⟩ | ⟨before, blanks, after, hblanks, rfl⟩)
      · exact ⟨[], blanks, after, hblanks, rfl⟩
      · exact ⟨c :: before, blanks, after, hblanks, rfl⟩
    · rintro ⟨before, blanks, after, hblanks, hs⟩
      cases before with
      | nil =>
        obtain ⟨rfl, rfl⟩ := List.cons.inj hs
        exact .inl ⟨rfl, blanks, after, hblanks, rfl⟩
      | cons d before =>
        obtain ⟨rfl, rfl⟩ := List.cons.inj hs
        exact .inr ⟨before, blanks, after, hblanks, rfl⟩

/-- A comma with only blanks after it is found wherever it is. -/
theorem hasFinalComma_iff (s : List Char) :
    hasFinalComma s = true ↔
      ∃ before blanks, (∀ c ∈ blanks, isBlank c = true) ∧ s = before ++ ',' :: blanks := by
  induction s with
  | nil => simp [hasFinalComma]
  | cons c s ih =>
    rw [hasFinalComma, Bool.or_eq_true, Bool.and_eq_true, beq_iff_eq, List.all_eq_true, ih]
    constructor
    · rintro (⟨rfl, hs⟩ | ⟨before, blanks, hblanks, rfl⟩)
      · exact ⟨[], s, hs, rfl⟩
      · exact ⟨c :: before, blanks, hblanks, rfl⟩
    · rintro ⟨before, blanks, hblanks, hs⟩
      cases before with
      | nil =>
        obtain ⟨rfl, rfl⟩ := List.cons.inj hs
        exact .inl ⟨rfl, hblanks⟩
      | cons d before =>
        obtain ⟨rfl, rfl⟩ := List.cons.inj hs
        exact .inr ⟨before, blanks, hblanks, rfl⟩

/-- The check of the commas passes exactly the lists whose commas leave no empty place. -/
theorem commaFlaw?_eq_none_iff (list : List Char) : commaFlaw? list = none ↔ WellSpaced list := by
  have hnone : commaFlaw? list = none ↔
      ¬ hasDoubleComma list = true ∧ ¬ hasFinalComma list = true := by
    unfold commaFlaw?
    cases hasDoubleComma list <;> cases hasFinalComma list <;> simp
  rw [hnone, hasDoubleComma_iff, hasFinalComma_iff]
  constructor
  · rintro ⟨hdouble, hfinal⟩ before blanks after hblanks hlist
    refine ⟨?_, fun hhead => ?_⟩
    · rintro rfl
      exact hfinal ⟨before, blanks, hblanks, by rw [hlist, List.append_nil]⟩
    · obtain ⟨after, rfl⟩ := List.head?_eq_some_iff.1 hhead
      exact hdouble ⟨before, blanks, after, hblanks, hlist⟩
  · intro hspaced
    refine ⟨?_, ?_⟩
    · rintro ⟨before, blanks, after, hblanks, hlist⟩
      exact (hspaced before blanks (',' :: after) hblanks hlist).2 rfl
    · rintro ⟨before, blanks, hblanks, hlist⟩
      exact (hspaced before blanks [] hblanks (by rw [hlist, List.append_nil])).1 rfl

/-! ## Tokens -/

/-- A token names a text: in square brackets, trimmed, or as it stands if no mark is in it. -/
inductive Names : List Char → List Char → Prop
  | bracketed {u : List Char} : '[' ∉ u → ']' ∉ u → trim u ≠ [] → Names ('[' :: (u ++ [']'])) (trim u)
  | bare {w : List Char} : (∀ c ∈ w, isMark c = false) → Names w w

/-- A token gives a text to look for: in curly braces, trimmed. -/
inductive Hints : List Char → List Char → Prop
  | braced {u : List Char} : '\x7b' ∉ u → '\x7d' ∉ u → trim u ≠ [] →
      Hints ('\x7b' :: (u ++ ['\x7d'])) (trim u)

/-- Whether a text is a token of the grammar. -/
def IsToken (token : List Char) : Prop := (∃ u, Names token u) ∨ ∃ u, Hints token u

/-- What two marks enclose. A trimmed token does not end with a line feed, so the one that may
follow the closing mark is never there. -/
theorem enclosed?_eq_some_iff {left right : Char} {token inner : List Char}
    (hlast : token.getLast? ≠ some '\n') :
    enclosed? left right token = some inner ↔
      token = left :: (inner ++ [right]) ∧ inner ≠ [] ∧ left ∉ inner ∧ right ∉ inner := by
  rw [enclosed?, if_neg hlast]
  cases token with
  | nil => simp
  | cons c rest =>
    simp only [Option.ite_none_right_eq_some, Option.some.injEq, Bool.not_eq_eq_eq_not,
      Bool.not_true, List.isEmpty_eq_false_iff, List.all_eq_true, Bool.and_eq_true, bne_iff_ne]
    constructor
    · rintro ⟨⟨rfl, hright, hne, hall⟩, rfl⟩
      refine ⟨?_, hne, fun h => (hall _ h).1 rfl, fun h => (hall _ h).2 rfl⟩
      -- What stands before the closing mark is the inner text.
      obtain ⟨start, rfl⟩ := List.getLast?_eq_some_iff.1 hright
      rw [List.dropLast_concat]
    · rintro ⟨hrest, hne, hleft, hright⟩
      obtain ⟨rfl, rfl⟩ := List.cons.inj hrest
      rw [List.dropLast_concat, List.getLast?_concat]
      exact ⟨⟨rfl, rfl, hne, fun d hd =>
        ⟨fun h => hleft (h ▸ hd), fun h => hright (h ▸ hd)⟩⟩, rfl⟩

theorem any_isMark_of_eq {left right : Char} {token inner : List Char} (hleft : isMark left = true)
    (h : token = left :: (inner ++ [right])) : token.any isMark = true := by
  rw [h, List.any_cons, hleft, Bool.true_or]

section Classify

variable {token : List Char}

theorem classify_bracketed {inner : List Char} (h : enclosed? '[' ']' token = some inner) :
    Token.classify token =
      if trim inner = [] then .emptyExact token else .exact (lower (trim inner)) := by
  rw [Token.classify, h]
  simp only [List.isEmpty_iff, lower_eq_nil_iff]

theorem classify_braced {inner : List Char} (hno : enclosed? '[' ']' token = none)
    (h : enclosed? '\x7b' '\x7d' token = some inner) :
    Token.classify token =
      if trim inner = [] then .emptyContains token else .contains (lower (trim inner)) := by
  rw [Token.classify, hno, h]
  simp only [List.isEmpty_iff, lower_eq_nil_iff]

theorem classify_other (hno : enclosed? '[' ']' token = none)
    (hno' : enclosed? '\x7b' '\x7d' token = none) :
    Token.classify token =
      if token.any isMark then .malformed token else .exact (lower token) := by
  rw [Token.classify, hno, hno']

/-- Only one kind of marks encloses a token, as the first character tells. -/
theorem enclosed?_braces_eq_none {inner : List Char} (hlast : token.getLast? ≠ some '\n')
    (h : enclosed? '[' ']' token = some inner) : enclosed? '\x7b' '\x7d' token = none := by
  rw [Option.eq_none_iff_forall_ne_some]
  intro inner' h'
  have hbracket := ((enclosed?_eq_some_iff hlast).1 h).1
  have hbrace := ((enclosed?_eq_some_iff hlast).1 h').1
  rw [hbracket] at hbrace
  exact absurd (List.cons.inj hbrace).1 (by decide)

end Classify

/-! ## Classification against the grammar -/

section Meaning

variable {token : List Char} (hlast : token.getLast? ≠ some '\n')

include hlast

/-- A token is classified as exact exactly for the texts that it names. -/
theorem classify_eq_exact_iff {text : List Char} :
    Token.classify token = .exact text ↔ ∃ u, Names token u ∧ lower u = text := by
  cases hsq : enclosed? '[' ']' token with
  | some inner =>
    obtain ⟨htoken, -, hleft, hright⟩ := (enclosed?_eq_some_iff hlast).1 hsq
    rw [classify_bracketed hsq]
    constructor
    · intro h
      split at h
      · cases h
      · next hne =>
        cases h
        exact ⟨trim inner, htoken ▸ .bracketed hleft hright hne, rfl⟩
    · rintro ⟨u, hu, rfl⟩
      cases hu with
      | @bracketed v hv hv' hne =>
        obtain ⟨rfl, -⟩ := List.append_inj' (List.cons.inj htoken).2 rfl
        rw [if_neg hne]
      | bare hmarks =>
        have hany := any_isMark_of_eq (by decide) htoken
        obtain ⟨c, hc, hmark⟩ := List.any_eq_true.1 hany
        exact absurd hmark (by simp [hmarks c hc])
  | none =>
    -- Square brackets would have been found, so the token is no text in them.
    have hnot : ∀ v, '[' ∉ v → ']' ∉ v → trim v ≠ [] → token ≠ '[' :: (v ++ [']']) := by
      intro v hv hv' hne htoken
      have hsome := (enclosed?_eq_some_iff hlast).2
        ⟨htoken, fun hnil => hne (by rw [hnil, trim_nil]), hv, hv'⟩
      rw [hsq] at hsome
      cases hsome
    cases hbr : enclosed? '\x7b' '\x7d' token with
    | some inner =>
      obtain ⟨htoken, -⟩ := (enclosed?_eq_some_iff hlast).1 hbr
      have hany := any_isMark_of_eq (by decide) htoken
      rw [classify_braced hsq hbr]
      constructor
      · intro h
        split at h <;> cases h
      · rintro ⟨u, hu, rfl⟩
        cases hu with
        | bracketed hv hv' hne => exact absurd rfl (hnot _ hv hv' hne)
        | bare hmarks =>
          obtain ⟨c, hc, hmark⟩ := List.any_eq_true.1 hany
          exact absurd hmark (by simp [hmarks c hc])
    | none =>
      rw [classify_other hsq hbr]
      constructor
      · intro h
        split at h
        · cases h
        · next hany =>
          cases h
          exact ⟨token, .bare (by simpa using hany), rfl⟩
      · rintro ⟨u, hu, rfl⟩
        cases hu with
        | bracketed hv hv' hne => exact absurd rfl (hnot _ hv hv' hne)
        | bare hmarks => rw [if_neg (by simpa using hmarks)]

/-- A token is classified as one to look for exactly for the texts that it gives. -/
theorem classify_eq_contains_iff {text : List Char} :
    Token.classify token = .contains text ↔ ∃ u, Hints token u ∧ lower u = text := by
  cases hbr : enclosed? '\x7b' '\x7d' token with
  | some inner =>
    obtain ⟨htoken, -, hleft, hright⟩ := (enclosed?_eq_some_iff hlast).1 hbr
    -- A token ends in one letter, so it cannot be in brackets as well.
    have hsq : enclosed? '[' ']' token = none := by
      rw [Option.eq_none_iff_forall_ne_some]
      intro inner' h'
      rw [enclosed?_braces_eq_none hlast h'] at hbr
      cases hbr
    rw [classify_braced hsq hbr]
    constructor
    · intro h
      split at h
      · cases h
      · next hne =>
        cases h
        exact ⟨trim inner, htoken ▸ .braced hleft hright hne, rfl⟩
    · rintro ⟨u, hu, rfl⟩
      cases hu with
      | @braced v hv hv' hne =>
        obtain ⟨rfl, -⟩ := List.append_inj' (List.cons.inj htoken).2 rfl
        rw [if_neg hne]
  | none =>
    constructor
    · intro h
      cases hsq : enclosed? '[' ']' token with
      | some inner =>
        rw [classify_bracketed hsq] at h
        split at h <;> cases h
      | none =>
        rw [classify_other hsq hbr] at h
        split at h <;> cases h
    · rintro ⟨u, hu, rfl⟩
      cases hu with
      | @braced v hv hv' hne =>
        have hsome := (enclosed?_eq_some_iff hlast).2
          ⟨rfl, fun hnil => hne (by rw [hnil, trim_nil]), hv, hv'⟩
        rw [hbr] at hsome
        cases hsome

/-- A token is free of errors exactly if it is one of the grammar. -/
theorem flaw?_classify_eq_none_iff : (Token.classify token).flaw? = none ↔ IsToken token := by
  have hshape : (Token.classify token).flaw? = none ↔
      (∃ text, Token.classify token = .exact text) ∨
        ∃ text, Token.classify token = .contains text := by
    cases Token.classify token <;> simp [Token.flaw?]
  rw [hshape, IsToken]
  simp only [classify_eq_exact_iff hlast, classify_eq_contains_iff hlast]
  constructor
  · rintro (⟨-, u, hu, -⟩ | ⟨-, u, hu, -⟩)
    · exact .inl ⟨u, hu⟩
    · exact .inr ⟨u, hu⟩
  · rintro (⟨u, hu⟩ | ⟨u, hu⟩)
    · exact .inl ⟨lower u, u, hu, rfl⟩
    · exact .inr ⟨lower u, u, hu, rfl⟩

end Meaning

/-! ## Whole lists -/

/-- Whether each piece of a list that is not blank is a token of the grammar. -/
def WellFormed (list : List Char) : Prop :=
  ∀ piece ∈ pieces ',' list, trim piece ≠ [] → IsToken (trim piece)

/-- Whether a token speaks of an identity: it names it, or gives a text that occurs in it, in lower
case. -/
def SpeaksOf (token identity : List Char) : Prop :=
  (∃ u, Names token u ∧ lower u = lower identity) ∨
    ∃ u, Hints token u ∧ lower u <:+: lower identity

/-- Whether a list excludes an identity: there is no error anywhere in it, and one of its tokens
speaks of the identity. -/
structure Excludes (list identity : List Char) : Prop where
  wellSpaced : WellSpaced list
  wellFormed : WellFormed list
  spoken : ∃ piece ∈ pieces ',' list, trim piece ≠ [] ∧ SpeaksOf (trim piece) identity

theorem mem_tokens {list token : List Char} :
    token ∈ tokens list ↔ ∃ piece ∈ pieces ',' list, trim piece = token ∧ token ≠ [] := by
  simp only [tokens, List.mem_filter, List.mem_map, Bool.not_eq_eq_eq_not, Bool.not_true,
    List.isEmpty_eq_false_iff]
  constructor
  · rintro ⟨⟨piece, hpiece, rfl⟩, hne⟩
    exact ⟨piece, hpiece, rfl, hne⟩
  · rintro ⟨piece, hpiece, rfl, hne⟩
    exact ⟨⟨piece, hpiece, rfl⟩, hne⟩

/-- A token is trimmed, so no line feed ends it. -/
theorem getLast?_ne_of_mem_tokens {list token : List Char} (h : token ∈ tokens list) :
    token.getLast? ≠ some '\n' := by
  obtain ⟨piece, -, rfl, -⟩ := mem_tokens.1 h
  intro hlast
  exact absurd (getLast?_trim hlast) (by decide)

/-- The pieces that are not blank are tokens of the grammar exactly if none of them has a flaw. -/
theorem wellFormed_iff (list : List Char) :
    WellFormed list ↔ ((tokens list).map Token.classify).filterMap Token.flaw? = [] := by
  rw [List.filterMap_eq_nil_iff]
  constructor
  · intro h t ht
    obtain ⟨token, htoken, rfl⟩ := List.mem_map.1 ht
    rw [flaw?_classify_eq_none_iff (getLast?_ne_of_mem_tokens htoken)]
    obtain ⟨piece, hpiece, rfl, hne⟩ := mem_tokens.1 htoken
    exact h piece hpiece hne
  · intro h piece hpiece hne
    have htoken : trim piece ∈ tokens list := mem_tokens.2 ⟨piece, hpiece, rfl, hne⟩
    exact (flaw?_classify_eq_none_iff (getLast?_ne_of_mem_tokens htoken)).1
      (h _ (List.mem_map_of_mem htoken))

/-- The errors that are found in a list are those of its commas or else those of its tokens. -/
theorem flaws_compile_eq_nil_iff (list : Option String) :
    (compile list).flaws = [] ↔
      WellSpaced (list.getD "").toList ∧ WellFormed (list.getD "").toList := by
  cases hl : (list.getD "").toList with
  | nil =>
    -- The empty list has one piece, and that one is blank.
    have hflaws : (compile list).flaws = [] := by rw [compile, hl]
    refine iff_of_true hflaws ⟨(commaFlaw?_eq_none_iff []).1 rfl, ?_⟩
    intro piece hpiece hne
    rw [pieces, List.mem_singleton] at hpiece
    exact absurd (by rw [hpiece, trim_nil]) hne
  | cons c s =>
    rw [← commaFlaw?_eq_none_iff, wellFormed_iff]
    simp only [compile, hl]
    cases hcomma : commaFlaw? (c :: s) with
    | some flaw => simp
    | none =>
      simp only [true_and, ofTokens]
      split <;> simp_all

/-- A list without errors compiles to what its tokens are classified as. -/
theorem patterns_compile {list : Option String} (h : (compile list).flaws = []) :
    (compile list).usable =
      { exact := exactTexts ((tokens (list.getD "").toList).map Token.classify)
        fragments := fragmentTexts ((tokens (list.getD "").toList).map Token.classify) } := by
  have hclean : (compile list).usable = (compile list).patterns := by
    rw [Compiled.usable, Compiled.isClean, h]
    rfl
  obtain ⟨hspaced, hformed⟩ := (flaws_compile_eq_nil_iff list).1 h
  rw [hclean]
  cases hl : (list.getD "").toList with
  | nil => rw [compile, hl]; rfl
  | cons c s =>
    rw [hl] at hspaced hformed
    simp only [compile, hl, (commaFlaw?_eq_none_iff _).2 hspaced, ofTokens,
      (wellFormed_iff _).1 hformed]

theorem mem_exactTexts_iff {list text : List Char} :
    text ∈ exactTexts ((tokens list).map Token.classify) ↔
      ∃ token ∈ tokens list, ∃ u, Names token u ∧ lower u = text := by
  simp only [exactTexts, List.mem_eraseDups, List.mem_filterMap, List.mem_map]
  constructor
  · rintro ⟨-, ⟨token, htoken, rfl⟩, h⟩
    refine ⟨token, htoken, (classify_eq_exact_iff (getLast?_ne_of_mem_tokens htoken)).1 ?_⟩
    revert h
    cases Token.classify token <;> simp
  · rintro ⟨token, htoken, h⟩
    have hclass := (classify_eq_exact_iff (getLast?_ne_of_mem_tokens htoken)).2 h
    exact ⟨_, ⟨token, htoken, rfl⟩, by rw [hclass]⟩

theorem mem_fragmentTexts_iff {list text : List Char} :
    text ∈ fragmentTexts ((tokens list).map Token.classify) ↔
      ∃ token ∈ tokens list, ∃ u, Hints token u ∧ lower u = text := by
  simp only [fragmentTexts, List.mem_filterMap, List.mem_map]
  constructor
  · rintro ⟨-, ⟨token, htoken, rfl⟩, h⟩
    refine ⟨token, htoken, (classify_eq_contains_iff (getLast?_ne_of_mem_tokens htoken)).1 ?_⟩
    revert h
    cases Token.classify token <;> simp
  · rintro ⟨token, htoken, h⟩
    have hclass := (classify_eq_contains_iff (getLast?_ne_of_mem_tokens htoken)).2 h
    exact ⟨_, ⟨token, htoken, rfl⟩, by rw [hclass]⟩

/-- Whether a list excludes an identity, decided by compiling the list. -/
def isExcluded (list : Option String) (identity : List Char) : Bool :=
  !identity.isEmpty && ((compile list).usable.reason? (lower identity)).isSome

/-- A list with an error excludes nothing. -/
theorem isExcluded_of_flaws {list : Option String} (h : (compile list).flaws ≠ [])
    (identity : List Char) : isExcluded list identity = false := by
  have husable : (compile list).usable = {} := by
    rw [Compiled.usable, Compiled.isClean, List.isEmpty_eq_false_iff.2 h]
    rfl
  rw [isExcluded, husable]
  simp [Patterns.reason?]

/-- A list without errors excludes the identities that one of its tokens speaks of. -/
theorem isExcluded_iff_mem_tokens {list : Option String} (h : (compile list).flaws = [])
    {identity : List Char} :
    isExcluded list identity = true ↔
      identity ≠ [] ∧ ∃ token ∈ tokens (list.getD "").toList, SpeaksOf token identity := by
  rw [isExcluded, patterns_compile h, Bool.and_eq_true, Bool.not_eq_true', List.isEmpty_eq_false_iff,
    Patterns.isSome_reason?]
  simp only [mem_exactTexts_iff, mem_fragmentTexts_iff, SpeaksOf]
  refine and_congr_right fun _ => ?_
  -- The patterns keep texts only; this puts the tokens back in that the texts came from.
  constructor
  · rintro (⟨token, htoken, h⟩ | ⟨-, ⟨token, htoken, u, hu, rfl⟩, hin⟩)
    · exact ⟨token, htoken, .inl h⟩
    · exact ⟨token, htoken, .inr ⟨u, hu, hin⟩⟩
  · rintro ⟨token, htoken, h | ⟨u, hu, hin⟩⟩
    · exact .inl ⟨token, htoken, h⟩
    · exact .inr ⟨lower u, ⟨token, htoken, u, hu, rfl⟩, hin⟩

/-- **Compiling a list decides its meaning.** An identity is excluded by the compiled patterns
exactly if the grammar says that the list excludes it. -/
theorem isExcluded_iff (list : Option String) {identity : List Char} (hne : identity ≠ []) :
    isExcluded list identity = true ↔ Excludes (list.getD "").toList identity := by
  by_cases hflaws : (compile list).flaws = []
  · obtain ⟨hspaced, hformed⟩ := (flaws_compile_eq_nil_iff list).1 hflaws
    rw [isExcluded_iff_mem_tokens hflaws, and_iff_right hne]
    constructor
    · rintro ⟨token, htoken, h⟩
      obtain ⟨piece, hpiece, rfl, htrim⟩ := mem_tokens.1 htoken
      exact ⟨hspaced, hformed, piece, hpiece, htrim, h⟩
    · rintro ⟨-, -, piece, hpiece, htrim, h⟩
      exact ⟨trim piece, mem_tokens.2 ⟨piece, hpiece, rfl, htrim⟩, h⟩
  · rw [isExcluded_of_flaws hflaws]
    refine iff_of_false (by simp) fun h => hflaws ?_
    exact (flaws_compile_eq_nil_iff list).2 ⟨h.wellSpaced, h.wellFormed⟩

end Exclusion

end Translucency
