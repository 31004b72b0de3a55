import Mathlib.Data.List.Forall2
import Translucency.Proofs.Exclusion.Grammar

/-!
# What is said about a list that breaks the grammar

A list is refused as a whole, so whoever wrote it should be told of everything that is wrong with it
at once. Which pieces are tokens the grammar says (`IsToken`), and what is to be said of one that is
none is `Complaint`: that its marks enclose blanks only, or else that it is malformed. The grammar
also says what a list without errors compiles to.

Both are about one token first (`exists_flaw_of_not_isToken`, `classify_eq_contains_iff`); the whole
list follows because compiling neither skips a token nor moves one (`forall₂_filter_filterMap`).
That the pieces are trimmed matters: otherwise a line feed behind the closing mark would be let
pass.
-/

namespace Translucency.Exclusion

open Text

/-! ## Deciding what is a token -/

/-- What stands between the ends of a token. -/
def inside (token : List Char) : List Char := token.tail.dropLast

/-- Whether two marks enclose something that is not blank, and stand nowhere in it. -/
def Encloses (left right : Char) (token : List Char) : Prop :=
  token = left :: (inside token ++ [right]) ∧ left ∉ inside token ∧ right ∉ inside token ∧
    trim (inside token) ≠ []

instance (left right : Char) (token : List Char) : Decidable (Encloses left right token) :=
  inferInstanceAs (Decidable (_ ∧ _))

theorem inside_eq (left right : Char) (u : List Char) : inside (left :: (u ++ [right])) = u := by
  rw [inside, List.tail_cons, List.dropLast_concat]

theorem encloses_iff {left right : Char} {token : List Char} :
    Encloses left right token ↔
      ∃ u, token = left :: (u ++ [right]) ∧ left ∉ u ∧ right ∉ u ∧ trim u ≠ [] := by
  constructor
  · exact fun h => ⟨inside token, h⟩
  · rintro ⟨u, rfl, h⟩
    rw [Encloses, inside_eq]
    exact ⟨rfl, h⟩

theorem exists_hints_iff {token : List Char} :
    (∃ u, Hints token u) ↔ Encloses '\x7b' '\x7d' token := by
  rw [encloses_iff]
  constructor
  · rintro ⟨-, @⟨u, hleft, hright, hne⟩⟩
    exact ⟨u, rfl, hleft, hright, hne⟩
  · rintro ⟨u, rfl, hleft, hright, hne⟩
    exact ⟨trim u, .braced hleft hright hne⟩

theorem exists_names_iff {token : List Char} :
    (∃ u, Names token u) ↔ Encloses '[' ']' token ∨ token.any isMark = false := by
  have hmarks : token.any isMark = false ↔ ∀ c ∈ token, isMark c = false := by
    simp only [List.any_eq_false, Bool.not_eq_true]
  rw [encloses_iff, hmarks]
  constructor
  · rintro ⟨u, hu⟩
    cases hu with
    | @bracketed u hleft hright hne => exact .inl ⟨u, rfl, hleft, hright, hne⟩
    | bare hmarks => exact .inr hmarks
  · rintro (⟨u, rfl, hleft, hright, hne⟩ | hmarks)
    · exact ⟨trim u, .bracketed hleft hright hne⟩
    · exact ⟨token, .bare hmarks⟩

instance (token : List Char) : Decidable (∃ u, Hints token u) :=
  decidable_of_iff _ exists_hints_iff.symm

instance (token : List Char) : Decidable (∃ u, Names token u) :=
  decidable_of_iff _ exists_names_iff.symm

instance : DecidablePred IsToken := fun _ => inferInstanceAs (Decidable (_ ∨ _))

/-! ## One token -/

/-- What is to be said of a piece that is no token. -/
inductive Complaint : List Char → String → Prop
  | emptyExact {u : List Char} (hne : u ≠ []) (hblank : trim u = []) :
    Complaint ('[' :: (u ++ [']']))
      ("Empty exact token \"" ++ String.ofList ('[' :: (u ++ [']'])) ++ "\"")
  | emptyContains {u : List Char} (hne : u ≠ []) (hblank : trim u = []) :
    Complaint ('\x7b' :: (u ++ ['\x7d']))
      ("Empty contains token \"" ++ String.ofList ('\x7b' :: (u ++ ['\x7d'])) ++ "\"")
  | malformed {token : List Char} (hno : ¬ IsToken token)
    (hsquare : ∀ u, token = '[' :: (u ++ [']']) → u = [] ∨ trim u ≠ [])
    (hcurly : ∀ u, token = '\x7b' :: (u ++ ['\x7d']) → u = [] ∨ trim u ≠ []) :
    Complaint token ("Malformed token: \"" ++ String.ofList token ++ "\"")

section OneToken

variable {token : List Char}

/-- Marks that enclose blanks are found, for no blank is a mark. -/
theorem enclosed?_of_blank {left right : Char} (hleft : isBlank left = false)
    (hright : isBlank right = false) {u : List Char} (hlast : token.getLast? ≠ some '\n')
    (htoken : token = left :: (u ++ [right])) (hne : u ≠ []) (hblank : trim u = []) :
    enclosed? left right token = some u := by
  have hblanks := trim_eq_nil_iff.1 hblank
  refine (enclosed?_eq_some_iff hlast).2 ⟨htoken, hne, fun h => ?_, fun h => ?_⟩
  · rw [hblanks left h] at hleft
    cases hleft
  · rw [hblanks right h] at hright
    cases hright

/-- A piece that is no token has one flaw, and the wording of the flaw is what is to be said. -/
theorem exists_flaw_of_not_isToken (hlast : token.getLast? ≠ some '\n') (hno : ¬ IsToken token) :
    ∃ flaw, (Token.classify token).flaw? = some flaw ∧ Complaint token flaw.message := by
  cases hsq : enclosed? '[' ']' token with
  | some inner =>
    obtain ⟨htoken, hne, hleft, hright⟩ := (enclosed?_eq_some_iff hlast).1 hsq
    -- The marks are in order, so it must be what they enclose.
    have hblank : trim inner = [] := by
      by_contra hsome
      exact hno (.inl (exists_names_iff.2 (.inl (encloses_iff.2
        ⟨inner, htoken, hleft, hright, hsome⟩))))
    rw [classify_bracketed hsq, if_pos hblank]
    refine ⟨.emptyExact token, rfl, ?_⟩
    rw [htoken]
    exact .emptyExact hne hblank
  | none =>
    cases hbr : enclosed? '\x7b' '\x7d' token with
    | some inner =>
      obtain ⟨htoken, hne, hleft, hright⟩ := (enclosed?_eq_some_iff hlast).1 hbr
      have hblank : trim inner = [] := by
        by_contra hsome
        exact hno (.inr (exists_hints_iff.2 (encloses_iff.2
          ⟨inner, htoken, hleft, hright, hsome⟩)))
      rw [classify_braced hsq hbr, if_pos hblank]
      refine ⟨.emptyContains token, rfl, ?_⟩
      rw [htoken]
      exact .emptyContains hne hblank
    | none =>
      have hmark : token.any isMark = true := by
        by_contra hnone
        rw [Bool.not_eq_true] at hnone
        exact hno (.inl (exists_names_iff.2 (.inr hnone)))
      rw [classify_other hsq hbr, if_pos hmark]
      refine ⟨.malformed token, rfl, .malformed hno (fun u htoken => ?_) fun u htoken => ?_⟩
      · rw [or_iff_not_imp_left]
        intro hne hblank
        rw [enclosed?_of_blank (by decide) (by decide) hlast htoken hne hblank] at hsq
        cases hsq
      · rw [or_iff_not_imp_left]
        intro hne hblank
        rw [enclosed?_of_blank (by decide) (by decide) hlast htoken hne hblank] at hbr
        cases hbr

end OneToken

/-! ## All tokens -/

/-- Two readings of a list agree item by item if they agree about which items they take. -/
theorem forall₂_filter_filterMap {α β : Type} {R : α → β → Prop} {p : α → Bool}
    {f : α → Option β} {items : List α}
    (h : ∀ a ∈ items, if p a then ∃ b, f a = some b ∧ R a b else f a = none) :
    List.Forall₂ R (items.filter p) (items.filterMap f) := by
  induction items with
  | nil => exact .nil
  | cons a items ih =>
    have hrest := ih fun a' ha' => h a' (List.mem_cons_of_mem a ha')
    have ha := h a (List.mem_cons_self ..)
    split at ha
    · next hp =>
      obtain ⟨b, hb, hR⟩ := ha
      rw [List.filter_cons_of_pos hp, List.filterMap_cons_some hb]
      exact .cons hR hrest
    · next hp =>
      rw [List.filter_cons_of_neg hp, List.filterMap_cons_none ha]
      exact hrest

/-- Each piece that is no token is complained about once, in the order of the pieces. -/
theorem forall₂_complaint (list : List Char) :
    List.Forall₂ Complaint ((tokens list).filter (¬ IsToken ·))
      ((((tokens list).map Token.classify).filterMap Token.flaw?).map Flaw.message) := by
  rw [List.filterMap_map, List.map_filterMap]
  refine forall₂_filter_filterMap fun token htoken => ?_
  have hlast := getLast?_ne_of_mem_tokens htoken
  split
  · next hno =>
    obtain ⟨flaw, hflaw, hcomplaint⟩ := exists_flaw_of_not_isToken hlast (by simpa using hno)
    exact ⟨flaw.message, by rw [Function.comp_apply, hflaw]; rfl, hcomplaint⟩
  · next hyes =>
    rw [Function.comp_apply, (flaw?_classify_eq_none_iff hlast).2 (by simpa using hyes)]
    rfl

/-- Each piece in curly braces gives its text, in the order of the pieces. -/
theorem forall₂_fragmentTexts (list : List Char) :
    List.Forall₂ (fun token text => ∃ u, Hints token u ∧ lower u = text)
      ((tokens list).filter (∃ u, Hints · u))
      (fragmentTexts ((tokens list).map Token.classify)) := by
  rw [fragmentTexts, List.filterMap_map]
  refine forall₂_filter_filterMap fun token htoken => ?_
  have hlast := getLast?_ne_of_mem_tokens htoken
  split
  · next hhint =>
    obtain ⟨u, hu⟩ : ∃ u, Hints token u := by simpa using hhint
    have hclass := (classify_eq_contains_iff hlast).2 ⟨u, hu, rfl⟩
    exact ⟨lower u, by rw [Function.comp_apply, hclass], u, hu, rfl⟩
  · next hno =>
    rw [Function.comp_apply]
    cases hclass : Token.classify token with
    | contains text =>
      obtain ⟨u, hu, -⟩ := (classify_eq_contains_iff hlast).1 hclass
      exact absurd (decide_eq_true ⟨u, hu⟩) hno
    | _ => rfl

/-! ## The whole list -/

/-- The pieces of a list that are not blank, trimmed. -/
def parts (list : List Char) : List (List Char) := ((pieces ',' list).map trim).filter (· ≠ [])

theorem tokens_eq_parts (list : List Char) : tokens list = parts list :=
  List.filter_congr fun token _ => by cases token <;> rfl

/-- Where the commas are in order, it is all about the tokens. -/
theorem compile_eq_ofTokens {raw : String} (h : commaFlaw? raw.toList = none) :
    compile (some raw) = ofTokens ((tokens raw.toList).map Token.classify) := by
  rw [compile, Option.getD_some]
  cases hraw : raw.toList with
  | nil => rfl
  | cons c s =>
    rw [hraw] at h
    simp only [h]

theorem compile_of_commaFlaw {raw : String} {flaw : Flaw} (h : commaFlaw? raw.toList = some flaw) :
    compile (some raw) = { flaws := [flaw] } := by
  rw [compile, Option.getD_some]
  cases hraw : raw.toList with
  | nil =>
    rw [hraw] at h
    cases h
  | cons c s =>
    rw [hraw] at h
    simp only [h]

theorem flaws_ofTokens (tokens : List Token) :
    (ofTokens tokens).flaws = tokens.filterMap Token.flaw? := by
  unfold ofTokens
  split
  · next h => exact h.symm
  · rfl

/-- The errors of a list whose commas are in order are those of its tokens. -/
theorem flaws_compile {raw : String} (h : commaFlaw? raw.toList = none) :
    (compile (some raw)).flaws = ((tokens raw.toList).map Token.classify).filterMap Token.flaw? := by
  rw [compile_eq_ofTokens h, flaws_ofTokens]

theorem patterns_ofTokens {tokens : List Token} (h : (ofTokens tokens).flaws = []) :
    (ofTokens tokens).patterns =
      { exact := exactTexts tokens, fragments := fragmentTexts tokens } := by
  rw [flaws_ofTokens] at h
  rw [ofTokens, h]

/-- An error leaves no patterns. -/
theorem patterns_eq_of_flaws {raw : String} (h : (compile (some raw)).flaws ≠ []) :
    (compile (some raw)).patterns = {} := by
  cases hcomma : commaFlaw? raw.toList with
  | some flaw => rw [compile_of_commaFlaw hcomma]
  | none =>
    rw [compile_eq_ofTokens hcomma] at h ⊢
    unfold ofTokens at h ⊢
    split at h
    · exact absurd rfl h
    · rfl

/-- **Compiling follows the grammar and tells of every error.** Where the commas are in order, the
errors are what is to be said of the pieces that are no tokens, piece by piece; and without errors
the patterns are the texts that the pieces name and the texts that the pieces in curly braces give,
all of these in order. A flaw of the commas is told alone. Any error leaves no patterns. -/
theorem compile_follows_grammar (raw : String) :
    (commaFlaw? raw.toList = none →
      List.Forall₂ Complaint ((parts raw.toList).filter (¬ IsToken ·))
          ((compile (some raw)).flaws.map Flaw.message) ∧
        ((compile (some raw)).flaws = [] →
          (∀ text, text ∈ (compile (some raw)).patterns.exact ↔
            ∃ part ∈ parts raw.toList, ∃ u, Names part u ∧ lower u = text) ∧
          List.Forall₂ (fun part text => ∃ u, Hints part u ∧ lower u = text)
            ((parts raw.toList).filter (∃ u, Hints · u))
            (compile (some raw)).patterns.fragments)) ∧
      (∀ flaw, commaFlaw? raw.toList = some flaw → (compile (some raw)).flaws = [flaw]) ∧
      ((compile (some raw)).flaws ≠ [] → (compile (some raw)).patterns = {}) := by
  refine ⟨fun h => ?_, fun flaw h => congrArg Compiled.flaws (compile_of_commaFlaw h),
    patterns_eq_of_flaws⟩
  rw [compile_eq_ofTokens h, ← tokens_eq_parts]
  refine ⟨?_, fun hclean => ?_⟩
  · rw [flaws_ofTokens]
    exact forall₂_complaint raw.toList
  · rw [patterns_ofTokens hclean]
    exact ⟨fun text => mem_exactTexts_iff, forall₂_fragmentTexts raw.toList⟩

/-- Brackets around nothing, braces around a blank and a lone bracket are complained about, each in
its place; the other kind of mark does no harm in brackets. In a list without errors a fragment that
is given twice is kept twice. -/
theorem compile_follows_grammar_of_two_lists :
    (commaFlaw? "[],[x\x7by],\x7b \x7d,a[b".toList = none ∧
      List.Forall₂ Complaint ["[]".toList, "\x7b \x7d".toList, "a[b".toList]
        ["Malformed token: \"[]\"", "Empty contains token \"\x7b \x7d\"",
          "Malformed token: \"a[b\""]) ∧
    commaFlaw? "\x7bB\x7d,Kate,\x7b b\x7d".toList = none ∧
      List.Forall₂ (fun part text => ∃ u, Hints part u ∧ lower u = text)
        ["\x7bB\x7d".toList, "\x7b b\x7d".toList] ["b".toList, "b".toList] := by
  have hflawed : commaFlaw? "[],[x\x7by],\x7b \x7d,a[b".toList = none := by decide
  have hclean : commaFlaw? "\x7bB\x7d,Kate,\x7b b\x7d".toList = none := by decide
  refine ⟨⟨hflawed, ?_⟩, hclean, ?_⟩
  · exact ((compile_follows_grammar "[],[x\x7by],\x7b \x7d,a[b").1 hflawed).1
  · exact (((compile_follows_grammar "\x7bB\x7d,Kate,\x7b b\x7d").1 hclean).2 rfl).2

end Translucency.Exclusion
