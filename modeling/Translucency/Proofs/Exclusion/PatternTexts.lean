import Translucency.Proofs.Exclusion.History
import Translucency.Proofs.Exclusion.Printing

/-!
# What stands in patterns

Whoever compares identities with patterns takes three things for granted: that the texts in them are
in lower case, since identities are put in lower case before; that they have no blanks at their
ends; and that none of them is empty, since the empty text occurs in every identity, and one list
with an empty fragment would put the program out of work.

A token becomes a text in one of three ways, and the last of these is seen to in a different place
for each: a bare word is not blank because blank pieces are no tokens, and a text between marks is
looked at again after it was trimmed. All of it happens before the text is put in lower case. What
every text comes out with is `Fits`, which writing patterns as a list needs as well.

Here it is said of all patterns that anybody gets to see: those of every list
(`isWellFormed_compile`), and those that a cache gives after whatever has happened to it
(`Shelf.result_act_iff`). And it is enough to see that no list excludes everything: an identity with
nothing but the comma in it is never excluded (`Patterns.IsWellFormed.reason?_comma`).
-/

namespace Translucency.Exclusion

open Text

/-! ## Well-formed patterns -/

/-- Whether all texts in patterns are as compiling leaves them: not empty, trimmed, without a comma,
in lower case, and without the marks of their kind of token. -/
structure Patterns.IsWellFormed (p : Patterns) : Prop where
  exact : ∀ text ∈ p.exact, Fits '[' ']' text
  fragments : ∀ text ∈ p.fragments, Fits '\x7b' '\x7d' text

theorem isWellFormed_empty : ({} : Patterns).IsWellFormed where
  exact := List.forall_mem_nil _
  fragments := List.forall_mem_nil _

theorem isWellFormed_compile (raw : Option String) : (compile raw).patterns.IsWellFormed where
  exact := fun _ => fits_of_mem_exact
  fragments := fun _ => fits_of_mem_fragments

/-- The patterns to go by are those of the list, or none. -/
theorem isWellFormed_usable (raw : Option String) : (compile raw).usable.IsWellFormed := by
  rw [Compiled.usable]
  split
  · exact isWellFormed_compile raw
  · exact isWellFormed_empty

namespace Patterns.IsWellFormed

variable {p : Patterns} (h : p.IsWellFormed)

include h

theorem nil_notMem_fragments : [] ∉ p.fragments := fun hmem => (h.fragments [] hmem).ne_nil rfl

/-- Nothing speaks of a comma: a fragment that occurs in it would be empty or the comma itself. -/
theorem reason?_comma : p.reason? [','] = none := by
  rw [← Option.not_isSome_iff_eq_none, Patterns.isSome_reason?]
  rintro (hexact | ⟨fragment, hfragment, hoccurs⟩)
  · exact (h.exact [','] hexact).comma_notMem (List.mem_singleton_self _)
  · obtain ⟨c, rest, rfl⟩ := List.exists_cons_of_ne_nil (h.fragments fragment hfragment).ne_nil
    have hc : c = ',' := List.mem_singleton.1 (hoccurs.subset (List.mem_cons_self ..))
    exact (h.fragments (c :: rest) hfragment).comma_notMem (hc ▸ List.mem_cons_self ..)

end Patterns.IsWellFormed

/-- **No list excludes everything.** -/
theorem isExcluded_comma (raw : Option String) : isExcluded raw [','] = false := by
  have hlower : lower [','] = [','] := by decide +kernel
  rw [isExcluded, hlower, (isWellFormed_usable raw).reason?_comma]
  rfl

/-! ## Patterns from a cache -/

/-- What a cache gives are the patterns of the list that is looked up, and a use that looks none up
gives nothing. -/
theorem Shelf.result_act_iff {visible : Bool} {past : List Use} {use : Use} {patterns : Patterns} :
    (use.act.run (after visible past)).result = .ok (some patterns) ↔
      ∃ list, use.list? = some list ∧ patterns = (compile list).usable := by
  have hsound := (follows_after visible past).sound
  cases hlist : use.list? with
  | some list =>
    rw [run_act_of_list? hlist, hsound.answer_eq]
    simp [eq_comm]
  | none =>
    refine iff_of_false (fun hresult => ?_) (by simp)
    cases use with
    | update list => cases hlist
    | fetch reader =>
      cases reader with
      | ok list => cases hlist
      | error fault => cases hresult
    | clear => cases hresult
    | visible b => cases hresult

/-- **Patterns are well formed, wherever they come from.** The texts in the patterns of any list are
not empty, have no blanks at their ends and no comma, and are their own lower case; identities
have no square brackets in them and fragments no curly braces. The same holds of all that a cache
gives, after any history. So no fragment occurs in every identity, and there is one that no list
excludes. -/
theorem wellFormed_from_anywhere :
    (∀ raw, (compile raw).patterns.IsWellFormed) ∧
    (∀ (visible : Bool) (past : List Shelf.Use) (use : Shelf.Use) (patterns : Patterns),
      (use.act.run (Shelf.after visible past)).result = .ok (some patterns) →
        patterns.IsWellFormed) ∧
    ∀ raw, [] ∉ (compile raw).patterns.fragments ∧ isExcluded raw [','] = false := by
  refine ⟨isWellFormed_compile, fun visible past use patterns hresult => ?_, fun raw => ?_⟩
  · obtain ⟨list, -, rfl⟩ := Shelf.result_act_iff.1 hresult
    exact isWellFormed_usable list
  · exact ⟨(isWellFormed_compile raw).nil_notMem_fragments, isExcluded_comma raw⟩

/-- A bare word with a letter that lower case makes two of, and a fragment with blanks around and
the other marks in it, from a cache that had another list before. -/
theorem wellFormed_from_anywhere_of_dotted_capital :
    let use : Shelf.Use := .fetch (.ok (some " \u0130x ,\x7b C[D] \x7d"))
    let patterns : Patterns := ⟨["i\u0307x".toList], ["c[d]".toList]⟩
    (use.act.run (Shelf.after true [.update (some "a,,b"), .clear])).result = .ok (some patterns) ∧
      Fits '[' ']' "i\u0307x".toList ∧ Fits '\x7b' '\x7d' "c[d]".toList := by
  intro use patterns
  have hpatterns : patterns = (compile (some " \u0130x ,\x7b C[D] \x7d")).usable := by
    decide +kernel
  have hresult : (use.act.run (Shelf.after true [.update (some "a,,b"), .clear])).result =
      .ok (some patterns) :=
    Shelf.result_act_iff.2 ⟨_, rfl, hpatterns⟩
  have hformed := wellFormed_from_anywhere.2.1 _ _ use patterns hresult
  exact ⟨hresult, hformed.exact _ (List.mem_singleton_self _),
    hformed.fragments _ (List.mem_singleton_self _)⟩

end Translucency.Exclusion
