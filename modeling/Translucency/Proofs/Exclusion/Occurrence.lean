import Translucency.Proofs.Exclusion.Commas
import Translucency.Proofs.Exclusion.Complaints
import Translucency.Proofs.Exclusion.Session
import Translucency.Proofs.Text.Sigma

/-!
# What a text in braces matches

A text in curly braces excludes the windows whose identity contains it. Matching does not see case,
and so it compares the lower case of the text with the lower case of the identity. Whoever writes
the text as it stands in the title of a window expects it to match that window at least.

It does if the text is steady (`LowerCase.IsSteady`), in particular if there is no capital sigma in
it. A text with an open sigma, at its end for instance, has the final form there, and an identity in
which the word goes on has the other. So there are lists with that text and identities with the very
same text in them that the lists do not exclude; `excludes_occurrences_iff_steady` says that these
texts are all the exceptions, and `not_excludes_sigma` shows the shortest of them.
-/

namespace Translucency.Exclusion

open Text

/-! ## A list of one token -/

variable {token : List Char}

/-- A token that gives a text begins and ends with its marks. -/
theorem Hints.trim_eq {u : List Char} (h : Hints token u) : trim token = token := by
  obtain ⟨-, -, -⟩ := h
  refine trim_of_ends (fun c hc => ?_) fun c hc => ?_
  · cases hc
    decide
  · rw [← List.cons_append, List.getLast?_concat] at hc
    cases hc
    decide

theorem Hints.ne_nil {u : List Char} (h : Hints token u) : token ≠ [] ∧ u ≠ [] := by
  obtain ⟨-, -, hne⟩ := h
  exact ⟨nofun, hne⟩

theorem Hints.getLast?_ne {u : List Char} (h : Hints token u) : token.getLast? ≠ some '\n' :=
  fun hlast => absurd (getLast?_trim (h.trim_eq.symm ▸ hlast)) (by decide)

/-- What is classified as a text to look for gives that text and no other, and names none. -/
theorem Hints.speaksOf_iff {u : List Char} (h : Hints token u) {identity : List Char} :
    SpeaksOf token identity ↔ lower u <:+: lower identity := by
  have hlast := h.getLast?_ne
  have hclass := (classify_eq_contains_iff hlast).2 ⟨u, h, rfl⟩
  constructor
  · -- A token has one class, and so it speaks in one way only.
    rintro (⟨v, hv, -⟩ | ⟨v, hv, hinfix⟩)
    · rw [(classify_eq_exact_iff hlast).2 ⟨v, hv, rfl⟩] at hclass
      cases hclass
    · rw [(classify_eq_contains_iff hlast).2 ⟨v, hv, rfl⟩] at hclass
      rwa [← Token.contains.inj hclass]
  · exact fun hinfix => .inr ⟨u, h, hinfix⟩

/-- A text in braces that has no comma in it is a list of one token, without errors. -/
theorem Hints.compile_alone {u : List Char} (h : Hints token u) (hcomma : ',' ∉ token) :
    tokens (String.ofList token).toList = [token] ∧
      (compile (some (String.ofList token))).flaws = [] := by
  have hpieces : pieces ',' (String.ofList token).toList = [token] := by
    rw [String.toList_ofList, pieces_of_not_mem hcomma]
  have htokens : tokens (String.ofList token).toList = [token] := by
    rw [tokens, hpieces, List.map_singleton, h.trim_eq,
      List.filter_cons_of_pos (by simpa using h.ne_nil.1), List.filter_nil]
  have hcommas : commaFlaw? (String.ofList token).toList = none := by
    rw [commaFlaw?_eq_none_iff_tail, hpieces]
    exact List.forall_mem_nil _
  have hflaw : (Token.classify token).flaw? = none :=
    (flaw?_classify_eq_none_iff h.getLast?_ne).2 (.inr ⟨u, h⟩)
  refine ⟨htokens, ?_⟩
  rw [flaws_compile hcommas, htokens, List.map_singleton, List.filterMap_cons_none hflaw,
    List.filterMap_nil]

/-! ## Occurrences -/

/-- **Which texts in braces match wherever they occur.** Every list without errors that has the
token excludes every identity in which the text of the token occurs, exactly if the text is
steady. -/
theorem excludes_occurrences_iff_steady {u : List Char} (hu : Hints token u)
    (hcomma : ',' ∉ token) :
    (∀ list : String, (compile (some list)).flaws = [] → token ∈ tokens list.toList →
      ∀ identity, u <:+: identity → Session.Answers (some list) identity true) ↔
      LowerCase.IsSteady u := by
  rw [← lower_infix_iff]
  constructor
  · -- The list that the token is by itself excludes what the token speaks of.
    intro h s hs
    obtain ⟨htokens, hclean⟩ := hu.compile_alone hcomma
    have hanswer := h _ hclean (by rw [htokens]; exact List.mem_singleton_self token) s hs
    rw [Session.answers_iff, eq_comm, isExcluded_iff_mem_tokens hclean, Option.getD_some,
      htokens] at hanswer
    obtain ⟨-, t, ht, hspeaks⟩ := hanswer
    rw [List.mem_singleton.1 ht, hu.speaksOf_iff] at hspeaks
    exact hspeaks
  · intro h list hclean htoken identity hinfix
    -- Without an identity nothing is excluded, but then the text would be empty.
    have hne : identity ≠ [] := by
      rintro rfl
      exact hu.ne_nil.2 (List.infix_nil.1 hinfix)
    rw [Session.answers_iff, eq_comm, isExcluded_iff_mem_tokens hclean]
    exact ⟨hne, token, htoken, hu.speaksOf_iff.2 (h identity hinfix)⟩

/-- A sigma between letters is settled by them, and the text is found in a title as it stands. -/
theorem excludes_occurrences_of_inner_sigma :
    Hints "\x7b ΜΕΣΑ\x7d".toList "ΜΕΣΑ".toList ∧ ',' ∉ "\x7b ΜΕΣΑ\x7d".toList ∧
      Session.Answers (some "[vlc] , \x7b ΜΕΣΑ\x7d") "ΜΕΣΑΙΩΝΑΣ".toList true := by
  have htrim : trim " ΜΕΣΑ".toList = "ΜΕΣΑ".toList := by decide
  have hu : Hints "\x7b ΜΕΣΑ\x7d".toList "ΜΕΣΑ".toList := by
    rw [← htrim]
    exact .braced (u := " ΜΕΣΑ".toList) (by decide) (by decide) (by decide)
  have hcomma : ',' ∉ "\x7b ΜΕΣΑ\x7d".toList := by decide
  have hsteady : LowerCase.IsSteady "ΜΕΣΑ".toList := by decide +kernel
  exact ⟨hu, hcomma, (excludes_occurrences_iff_steady hu hcomma).2 hsteady _ (by decide +kernel)
    (by decide +kernel) _ (by decide)⟩

/-- The title of the window ends with the text, but the sigma follows a letter there, and is the
final one. Where it stands alone in its braces, it is not. -/
theorem not_excludes_sigma :
    ((compile (some "\x7bΣ\x7d")).flaws = [] ∧ "\x7bΣ\x7d".toList ∈ tokens "\x7bΣ\x7d".toList ∧
      Hints "\x7bΣ\x7d".toList "Σ".toList ∧ "Σ".toList <:+: "ΑΣ".toList) ∧
      Session.Answers (some "\x7bΣ\x7d") "ΑΣ".toList false := by
  have hu : Hints "\x7bΣ\x7d".toList "Σ".toList :=
    .braced (u := "Σ".toList) (by decide) (by decide) (by decide)
  refine ⟨⟨by decide +kernel, by decide, hu, by decide⟩, ?_⟩
  rw [Session.answers_iff]
  decide +kernel

end Translucency.Exclusion
