import Translucency.Proofs.Exclusion.Commas
import Translucency.Proofs.Exclusion.Complaints
import Translucency.Proofs.Exclusion.Session

/-!
# Lists that are joined

An exclusion list grows: somebody writes a comma behind it and another list behind the comma. That
should mean what both lists mean, error by error and token by token.

Between the two lists nothing can happen, because joining texts with a comma is joining their pieces
(`pieces_append`) and every step after that goes piece by piece. The one exception is the check of
the commas, which looks across them. It is told from the pieces here: only the first of them may be
blank (`commaFlaw?_eq_none_iff_tail`). The first piece of the second list is not the first any more,
so that one must not be blank; the first piece of the first list may still be, even if it is all
there is.

What a list decides is then a matter of which tokens it has, and neither of their order nor of how
often they are written (`isExcluded_iff_mem_tokens`).
-/

namespace Translucency.Exclusion

open Text

/-! ## Commas -/

theorem firstPiece_eq_takeWhile (list : List Char) :
    firstPiece list = list.takeWhile (· ≠ ',') := by
  unfold firstPiece
  induction list with
  | nil => rfl
  | cons c list ih =>
    by_cases hc : c = ','
    · subst hc
      rfl
    · obtain ⟨first, rest, hpieces⟩ := List.exists_cons_of_ne_nil (pieces_ne_nil ',' list)
      simp only [hpieces, List.head_cons] at ih
      simp only [pieces, if_neg hc, hpieces, List.head_cons, ih]
      rw [List.takeWhile_cons_of_pos (by simpa using hc)]

variable {a b : List Char}

/-- Two lists whose commas are in order are joined to one, if the second does not begin with an
empty place. -/
theorem commaFlaw?_joined (ha : commaFlaw? a = none) (hb : commaFlaw? b = none)
    (hfirst : trim (firstPiece b) ≠ []) : commaFlaw? (a ++ ',' :: b) = none := by
  rw [commaFlaw?_eq_none_iff_tail] at ha hb ⊢
  -- All pieces but the first of the first list are checked now, and one of them was not before.
  have hpieces : pieces ',' b = firstPiece b :: (pieces ',' b).tail :=
    (List.cons_head_tail (pieces_ne_nil ',' b)).symm
  rw [pieces_append, List.tail_append_of_ne_nil (pieces_ne_nil ',' a), hpieces]
  intro piece hpiece
  rcases List.mem_append.1 hpiece with hpiece | hpiece
  · exact ha piece hpiece
  · rcases List.mem_cons.1 hpiece with rfl | hpiece
    · exact hfirst
    · exact hb piece hpiece

/-! ## Tokens -/

theorem tokens_joined (a b : List Char) : tokens (a ++ ',' :: b) = tokens a ++ tokens b := by
  rw [tokens, pieces_append, List.map_append, List.filter_append]
  rfl

theorem fragmentTexts_append (before after : List Token) :
    fragmentTexts (before ++ after) = fragmentTexts before ++ fragmentTexts after :=
  List.filterMap_append

theorem mem_exactTexts_append {before after : List Token} {text : List Char} :
    text ∈ exactTexts (before ++ after) ↔ text ∈ exactTexts before ∨ text ∈ exactTexts after := by
  simp only [exactTexts, List.mem_eraseDups, List.filterMap_append, List.mem_append]

/-! ## The joined list -/

section Joined

variable {a b : String}

theorem toList_joined (a b : String) : (a ++ "," ++ b).toList = a.toList ++ ',' :: b.toList := by
  simp

theorem patterns_compile_some {raw : String} (h : commaFlaw? raw.toList = none)
    (hclean : (compile (some raw)).flaws = []) :
    (compile (some raw)).patterns =
      { exact := exactTexts ((tokens raw.toList).map Token.classify)
        fragments := fragmentTexts ((tokens raw.toList).map Token.classify) } := by
  rw [compile_eq_ofTokens h] at hclean ⊢
  exact patterns_ofTokens hclean

/-- **Joining two lists joins what they mean.** Let the commas of two lists be in order, and let the
second begin with something. Then the commas of the joined list are in order, and its errors are
those of the first and then those of the second. If there are none, the joined list names what the
two name, has the fragments of the first and then those of the second, and excludes exactly the
identities that one of the two excludes, as does every other list without errors that has the same
tokens, in whatever order and however often. -/
theorem joined_means_both (ha : commaFlaw? a.toList = none) (hb : commaFlaw? b.toList = none)
    (hfirst : ∃ c ∈ b.toList.takeWhile (· ≠ ','), isBlank c = false) :
    let both := a ++ "," ++ b
    commaFlaw? both.toList = none ∧
    (compile (some both)).flaws = (compile (some a)).flaws ++ (compile (some b)).flaws ∧
    ((compile (some a)).flaws = [] → (compile (some b)).flaws = [] →
      (∀ text, text ∈ (compile (some both)).patterns.exact ↔
        text ∈ (compile (some a)).patterns.exact ∨ text ∈ (compile (some b)).patterns.exact) ∧
      (compile (some both)).patterns.fragments =
        (compile (some a)).patterns.fragments ++ (compile (some b)).patterns.fragments ∧
      ∀ identity, ∃ x y, Session.Answers (some a) identity x ∧ Session.Answers (some b) identity y ∧
        Session.Answers (some both) identity (x || y) ∧
        ∀ other, (compile (some other)).flaws = [] →
          (∀ token, token ∈ tokens other.toList ↔ token ∈ tokens both.toList) →
          Session.Answers (some other) identity (x || y)) := by
  intro both
  -- The commas first: the rest of the list is only looked at if they are in order.
  have hlist : both.toList = a.toList ++ ',' :: b.toList := toList_joined a b
  have hboth : commaFlaw? both.toList = none := by
    rw [hlist]
    refine commaFlaw?_joined ha hb fun hblank => ?_
    obtain ⟨c, hc, hsolid⟩ := hfirst
    rw [← firstPiece_eq_takeWhile] at hc
    rw [trim_eq_nil_iff.1 hblank c hc] at hsolid
    cases hsolid
  have hflaws : (compile (some both)).flaws =
      (compile (some a)).flaws ++ (compile (some b)).flaws := by
    rw [flaws_compile ha, flaws_compile hb, flaws_compile hboth, hlist, tokens_joined,
      List.map_append, List.filterMap_append]
  refine ⟨hboth, hflaws, fun hcleanA hcleanB => ?_⟩
  have hclean : (compile (some both)).flaws = [] := by rw [hflaws, hcleanA, hcleanB]; rfl
  refine ⟨fun text => ?_, ?_, fun identity => ?_⟩
  · rw [patterns_compile_some ha hcleanA, patterns_compile_some hb hcleanB,
      patterns_compile_some hboth hclean, hlist, tokens_joined, List.map_append]
    exact mem_exactTexts_append
  · rw [patterns_compile_some ha hcleanA, patterns_compile_some hb hcleanB,
      patterns_compile_some hboth hclean, hlist, tokens_joined, List.map_append]
    exact fragmentTexts_append _ _
  · -- The joined list is one of those that have its tokens.
    have hsame : ∀ other, (compile (some other)).flaws = [] →
        (∀ token, token ∈ tokens other.toList ↔ token ∈ tokens both.toList) →
        Session.Answers (some other) identity
          (isExcluded (some a) identity || isExcluded (some b) identity) := by
      intro other hother htokens
      rw [Session.answers_iff, Bool.eq_iff_iff, Bool.or_eq_true, isExcluded_iff_mem_tokens hother,
        isExcluded_iff_mem_tokens hcleanA, isExcluded_iff_mem_tokens hcleanB, ← and_or_left]
      simp only [Option.getD_some, htokens, hlist, tokens_joined, List.mem_append, or_and_right,
        exists_or]
    exact ⟨_, _, Session.answers_iff.2 rfl, Session.answers_iff.2 rfl,
      hsame both hclean fun _ => Iff.rfl, hsame⟩

/-- The first list begins with an empty place, which does no harm in front of the second either; the
second gives one fragment twice. What only the second excludes the joined list excludes. -/
theorem joined_means_both_of_leading_comma :
    let a := "\u2003,[A b]"
    let b := "\x7bc\x7d\t,\n\x7bC\x7d"
    (commaFlaw? a.toList = none ∧ commaFlaw? b.toList = none ∧
      ∃ c ∈ b.toList.takeWhile (· ≠ ','), isBlank c = false) ∧
    (compile (some (a ++ "," ++ b))).patterns.fragments = ["c".toList, "c".toList] ∧
      Session.Answers (some (a ++ "," ++ b)) "xCx".toList true := by
  intro a b
  have ha : commaFlaw? a.toList = none := by decide
  have hb : commaFlaw? b.toList = none := by decide
  have hfirst : ∃ c ∈ b.toList.takeWhile (· ≠ ','), isBlank c = false :=
    ⟨'\x7b', by decide, by decide⟩
  obtain ⟨-, -, hclean⟩ := joined_means_both ha hb hfirst
  obtain ⟨-, hfragments, hdecides⟩ := hclean (by decide +kernel) (by decide +kernel)
  obtain ⟨x, y, -, hy, hboth, -⟩ := hdecides "xCx".toList
  have htrue : y = true := (Session.answers_iff.1 hy).trans (by decide +kernel)
  rw [htrue, Bool.or_true] at hboth
  exact ⟨⟨ha, hb, hfirst⟩, hfragments.trans (by decide +kernel), hboth⟩

end Joined

end Translucency.Exclusion
