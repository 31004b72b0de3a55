import Translucency.Proofs.Exclusion.Commas
import Translucency.Proofs.Exclusion.Complaints
import Translucency.Proofs.Text.SmallLetters

/-!
# Patterns written as a list again

Patterns can be written down again as an exclusion list: each identity in square brackets, each
fragment in curly braces, and commas between. Whoever wrote a bare word gets it back in brackets,
and whoever wrote capitals gets small letters, but the new list means what the old one did.

For that, whatever compiling did to a text must be done with once it was done. A text in the patterns
is trimmed and in small letters, it is not empty and has no comma in it, and none of the marks that
it gets (`Fits`); this holds of the patterns of every list (`fits_of_mem_exact`,
`fits_of_mem_fragments`). The order of the two steps is what needs care, since a text is put in lower
case after its marks were looked at and its blanks were taken away. Lower case could have brought a
blank or a mark back; that it does not is a fact about the table of letters (`LowerCase.IsApart`).

The rest is about any patterns of such texts (`compile_printed`): their list has the texts in their
marks for its pieces, no piece of it is blank, and each is one token. The other kind of marks may
stand in a text, because a token is told by its ends.
-/

namespace Translucency.Exclusion

open Text

/-! ## Lists without repetitions -/

theorem nodup_eraseDups {α : Type} [BEq α] [LawfulBEq α] (items : List α) :
    items.eraseDups.Nodup := by
  -- Erasing goes on with the items other than the first, which are no tail of the list.
  generalize hn : items.length = n
  induction n using Nat.strong_induction_on generalizing items with
  | _ n ih =>
    cases items with
    | nil => exact List.nodup_nil
    | cons a items =>
      have hshorter : (items.filter fun b => !b == a).length < n := by
        have hle := List.length_filter_le (fun b => !b == a) items
        rw [List.length_cons] at hn
        omega
      rw [List.eraseDups_cons, List.nodup_cons]
      refine ⟨fun hmem => ?_, ih _ hshorter _ rfl⟩
      simp [List.mem_eraseDups] at hmem

theorem eraseDups_of_nodup {α : Type} [BEq α] [LawfulBEq α] {items : List α}
    (h : items.Nodup) : items.eraseDups = items := by
  induction items with
  | nil => rfl
  | cons a items ih =>
    obtain ⟨hnot, hrest⟩ := List.nodup_cons.1 h
    have hfilter : (items.filter fun b => !b == a) = items := by
      refine List.filter_eq_self.2 fun b hb => ?_
      rw [Bool.not_eq_true', beq_eq_false_iff_ne]
      rintro rfl
      exact hnot hb
    rw [List.eraseDups_cons, hfilter, ih hrest]

/-! ## The texts in patterns -/

/-- Whether a text can be put between two marks and be found there as it is. -/
structure Fits (left right : Char) (text : List Char) : Prop where
  ne_nil : text ≠ []
  trimmed : trim text = text
  comma_notMem : ',' ∉ text
  small : lower text = text
  left_notMem : left ∉ text
  right_notMem : right ∉ text

theorem isApart_comma : LowerCase.IsApart ',' :=
  LowerCase.isApart_of_covers [(0x2c, 0x2c)] (by decide +kernel) rfl

theorem isApart_of_isMark {d : Char} (h : isMark d = true) : LowerCase.IsApart d := by
  refine LowerCase.isApart_of_covers
    [(0x5b, 0x5b), (0x5d, 0x5d), (0x7b, 0x7b), (0x7d, 0x7d)] (by decide +kernel) ?_
  simp only [isMark, Bool.or_eq_true, beq_iff_eq] at h
  obtain ((rfl | rfl) | rfl) | rfl := h <;> rfl

/-- A text that fits but for its capitals fits in lower case. -/
theorem fits_lower {left right : Char} (hleft : isMark left = true) (hright : isMark right = true)
    {u : List Char} (hne : u ≠ []) (htrim : trim u = u) (hcomma : ',' ∉ u) (hl : left ∉ u)
    (hr : right ∉ u) : Fits left right (lower u) where
  ne_nil := fun h => hne (lower_eq_nil_iff.1 h)
  trimmed := trim_lower htrim
  comma_notMem := fun h => hcomma (isApart_comma.mem h)
  small := lower_lower u
  left_notMem := fun h => hl ((isApart_of_isMark hleft).mem h)
  right_notMem := fun h => hr ((isApart_of_isMark hright).mem h)

theorem mem_of_mem_trim {u : List Char} {c : Char} (h : c ∈ trim u) : c ∈ u := by
  obtain ⟨before, after, -, -, hu⟩ := exists_blanks_trim u
  rw [hu]
  exact List.mem_append_right _ (List.mem_append_left _ h)

theorem mem_enclosed {left right c : Char} {u : List Char} (h : c ∈ u) :
    c ∈ left :: (u ++ [right]) := List.mem_cons_of_mem _ (List.mem_append_left _ h)

section Grammar

variable {token u : List Char}

/-- A bare word is trimmed as the token that it is; a text in brackets is trimmed by itself. -/
theorem Names.fits (h : Names token u) (hne : token ≠ []) (htrim : trim token = token)
    (hcomma : ',' ∉ token) : Fits '[' ']' (lower u) := by
  cases h with
  | @bracketed v hleft hright hv =>
    exact fits_lower rfl rfl hv (trim_trim v) (fun h => hcomma (mem_enclosed (mem_of_mem_trim h)))
      (fun h => hleft (mem_of_mem_trim h)) fun h => hright (mem_of_mem_trim h)
  | bare hmarks =>
    exact fits_lower rfl rfl hne htrim hcomma (fun h => absurd (hmarks _ h) (by decide))
      fun h => absurd (hmarks _ h) (by decide)

theorem Hints.fits (h : Hints token u) (hcomma : ',' ∉ token) :
    Fits '\x7b' '\x7d' (lower u) := by
  obtain @⟨v, hleft, hright, hv⟩ := h
  exact fits_lower rfl rfl hv (trim_trim v) (fun h => hcomma (mem_enclosed (mem_of_mem_trim h)))
    (fun h => hleft (mem_of_mem_trim h)) fun h => hright (mem_of_mem_trim h)

/-- A token is a piece between two commas, trimmed, and it is not empty. -/
theorem of_mem_tokens {list : List Char} (h : token ∈ tokens list) :
    token ≠ [] ∧ trim token = token ∧ ',' ∉ token := by
  obtain ⟨piece, hpiece, rfl, hne⟩ := mem_tokens.1 h
  exact ⟨hne, trim_trim piece, fun hcomma => not_mem_of_mem_pieces hpiece (mem_of_mem_trim hcomma)⟩

end Grammar

section Compiled

variable {raw : Option String}

/-- The patterns of a list are made of its tokens, or there are none because of an error. -/
theorem patterns_compile_cases (raw : Option String) :
    (compile raw).patterns = {} ∨
      (compile raw).patterns =
        { exact := exactTexts ((tokens (raw.getD "").toList).map Token.classify)
          fragments := fragmentTexts ((tokens (raw.getD "").toList).map Token.classify) } := by
  have hraw : compile raw = compile (some (raw.getD "")) := by
    cases raw <;> rfl
  rw [hraw]
  by_cases hclean : (compile (some (raw.getD ""))).flaws = []
  · right
    have husable : (compile (some (raw.getD ""))).usable =
        (compile (some (raw.getD ""))).patterns := by
      rw [Compiled.usable, Compiled.isClean, hclean]
      rfl
    rw [← husable, patterns_compile hclean]
    rfl
  · exact .inl (patterns_eq_of_flaws hclean)

theorem nodup_exact (raw : Option String) : (compile raw).patterns.exact.Nodup := by
  obtain h | h := patterns_compile_cases raw
  · rw [h]
    exact List.nodup_nil
  · rw [h]
    exact nodup_eraseDups _

/-- **What a list names fits into square brackets.** -/
theorem fits_of_mem_exact {text : List Char} (h : text ∈ (compile raw).patterns.exact) :
    Fits '[' ']' text := by
  obtain hpatterns | hpatterns := patterns_compile_cases raw
  · rw [hpatterns] at h
    cases h
  · rw [hpatterns, mem_exactTexts_iff] at h
    obtain ⟨token, htoken, u, hu, rfl⟩ := h
    obtain ⟨hne, htrim, hcomma⟩ := of_mem_tokens htoken
    exact hu.fits hne htrim hcomma

/-- **What a list looks for fits into curly braces.** -/
theorem fits_of_mem_fragments {text : List Char} (h : text ∈ (compile raw).patterns.fragments) :
    Fits '\x7b' '\x7d' text := by
  obtain hpatterns | hpatterns := patterns_compile_cases raw
  · rw [hpatterns] at h
    cases h
  · rw [hpatterns, mem_fragmentTexts_iff] at h
    obtain ⟨token, htoken, u, hu, rfl⟩ := h
    exact hu.fits (of_mem_tokens htoken).2.2

end Compiled

/-! ## Writing -/

/-- A text between two marks. -/
def enclose (left right : Char) (text : List Char) : List Char := left :: (text ++ [right])

/-- The tokens that patterns are written as: identities in square brackets, and then fragments in
curly braces. -/
def Patterns.written (p : Patterns) : List (List Char) :=
  p.exact.map (enclose '[' ']') ++ p.fragments.map (enclose '\x7b' '\x7d')

/-- Patterns as an exclusion list. -/
def Patterns.printed (p : Patterns) : List Char := join [','] p.written

namespace Fits

variable {left right : Char} {text : List Char}

theorem comma_notMem_enclose (h : Fits left right text) (hleft : isMark left = true)
    (hright : isMark right = true) : ',' ∉ enclose left right text := by
  rw [enclose, List.mem_cons, List.mem_append, List.mem_singleton]
  rintro (rfl | hmem | rfl)
  · cases hleft
  · exact h.comma_notMem hmem
  · cases hright

theorem classify_bracketed (h : Fits '[' ']' text) :
    Token.classify (enclose '[' ']' text) = .exact text := by
  have hnames : Names (enclose '[' ']' text) text := by
    have hbracketed := Names.bracketed h.left_notMem h.right_notMem (h.trimmed.symm ▸ h.ne_nil)
    rwa [h.trimmed] at hbracketed
  refine (classify_eq_exact_iff ?_).2 ⟨text, hnames, h.small⟩
  rw [enclose, ← List.cons_append, List.getLast?_concat]
  decide

theorem classify_braced (h : Fits '\x7b' '\x7d' text) :
    Token.classify (enclose '\x7b' '\x7d' text) = .contains text := by
  have hhints : Hints (enclose '\x7b' '\x7d' text) text := by
    have hbraced := Hints.braced h.left_notMem h.right_notMem (h.trimmed.symm ▸ h.ne_nil)
    rwa [h.trimmed] at hbraced
  refine (classify_eq_contains_iff ?_).2 ⟨text, hhints, h.small⟩
  rw [enclose, ← List.cons_append, List.getLast?_concat]
  decide

end Fits

/-- The ends of a text in marks are no blanks, whatever its own ends are. -/
theorem trim_enclose {left right : Char} (hleft : isBlank left = false)
    (hright : isBlank right = false) (text : List Char) :
    trim (enclose left right text) = enclose left right text := by
  refine trim_of_ends (fun c hc => ?_) fun c hc => ?_
  · cases hc
    exact hleft
  · rw [enclose, ← List.cons_append, List.getLast?_concat] at hc
    cases hc
    exact hright

theorem trim_of_mem_written {p : Patterns} {token : List Char} (h : token ∈ p.written) :
    trim token = token ∧ token ≠ [] := by
  rw [Patterns.written, List.mem_append, List.mem_map, List.mem_map] at h
  obtain ⟨text, -, rfl⟩ | ⟨text, -, rfl⟩ := h
  · exact ⟨trim_enclose (by decide) (by decide) text, List.cons_ne_nil _ _⟩
  · exact ⟨trim_enclose (by decide) (by decide) text, List.cons_ne_nil _ _⟩

/-- Tokens that were classified as texts of patterns make up these patterns. -/
theorem ofTokens_of_patterns {p : Patterns} (hnodup : p.exact.Nodup) :
    ofTokens (p.exact.map .exact ++ p.fragments.map .contains) = { patterns := p } := by
  have hflaws : (p.exact.map Token.exact ++ p.fragments.map Token.contains).filterMap
      Token.flaw? = [] := by
    simp [List.filterMap_eq_nil_iff, Token.flaw?]
  have hexact : exactTexts (p.exact.map Token.exact ++ p.fragments.map Token.contains) =
      p.exact := by
    rw [exactTexts, List.filterMap_append, List.filterMap_map, List.filterMap_map]
    simp [eraseDups_of_nodup hnodup]
  have hfragments : fragmentTexts (p.exact.map Token.exact ++ p.fragments.map Token.contains) =
      p.fragments := by
    rw [fragmentTexts, List.filterMap_append, List.filterMap_map, List.filterMap_map]
    simp
  rw [ofTokens, hflaws, hexact, hfragments]

/-! ## Reading again -/

section Reading

variable {p : Patterns} (hexact : ∀ text ∈ p.exact, Fits '[' ']' text)
  (hfragments : ∀ text ∈ p.fragments, Fits '\x7b' '\x7d' text)

include hexact hfragments

/-- No comma comes in with the texts, so the pieces are the tokens that were written. -/
theorem pieces_printed (hne : p.written ≠ []) : pieces ',' p.printed = p.written := by
  refine pieces_join hne fun token htoken => ?_
  rw [Patterns.written, List.mem_append, List.mem_map, List.mem_map] at htoken
  obtain ⟨text, htext, rfl⟩ | ⟨text, htext, rfl⟩ := htoken
  · exact (hexact text htext).comma_notMem_enclose rfl rfl
  · exact (hfragments text htext).comma_notMem_enclose rfl rfl

theorem commaFlaw?_printed (hne : p.written ≠ []) : commaFlaw? p.printed = none := by
  rw [commaFlaw?_eq_none_iff_tail, pieces_printed hexact hfragments hne]
  intro piece hpiece
  obtain ⟨htrim, hpiece⟩ := trim_of_mem_written (List.mem_of_mem_tail hpiece)
  rwa [htrim]

theorem tokens_printed (hne : p.written ≠ []) : tokens p.printed = p.written := by
  have htrim : p.written.map trim = p.written.map id :=
    List.map_congr_left fun token htoken => (trim_of_mem_written htoken).1
  rw [tokens, pieces_printed hexact hfragments hne, htrim, List.map_id]
  refine List.filter_eq_self.2 fun token htoken => ?_
  rw [Bool.not_eq_true', List.isEmpty_eq_false_iff]
  exact (trim_of_mem_written htoken).2

/-- Each token is read as what it was written for. -/
theorem map_classify_written :
    p.written.map Token.classify = p.exact.map .exact ++ p.fragments.map .contains := by
  rw [Patterns.written, List.map_append, List.map_map, List.map_map]
  congr 1
  · exact List.map_congr_left fun text htext => (hexact text htext).classify_bracketed
  · exact List.map_congr_left fun text htext => (hfragments text htext).classify_braced

/-- **Patterns of fitting texts are read as they were written.** -/
theorem compile_printed (hnodup : p.exact.Nodup) :
    compile (some (String.ofList p.printed)) = { patterns := p } := by
  by_cases hne : p.written = []
  · -- There is nothing to write, and the empty list has no patterns.
    rw [Patterns.written, List.append_eq_nil_iff, List.map_eq_nil_iff, List.map_eq_nil_iff] at hne
    obtain ⟨exact, fragments⟩ := p
    obtain ⟨rfl, rfl⟩ := hne
    rfl
  · have hcommas := commaFlaw?_printed hexact hfragments hne
    have htokens := tokens_printed hexact hfragments hne
    have hlist : (String.ofList p.printed).toList = p.printed := String.toList_ofList
    rw [← hlist] at hcommas htokens
    rw [compile_eq_ofTokens hcommas, htokens, map_classify_written hexact hfragments,
      ofTokens_of_patterns hnodup]

end Reading

/-- **The patterns of a list, written as a list again, compile to themselves.** The identities may be
written in any order; they come back in that order, and the fragments in theirs, and there are no
errors. A list with errors has no patterns, and what is written for it is the empty list. -/
theorem patterns_compile_printed {raw : Option String} {order : List (List Char)}
    (horder : order.Perm (compile raw).patterns.exact) :
    let printed := Patterns.printed ⟨order, (compile raw).patterns.fragments⟩
    (compile (some (String.ofList printed))).flaws = [] ∧
      (compile (some (String.ofList printed))).patterns.exact.Perm (compile raw).patterns.exact ∧
      (compile (some (String.ofList printed))).patterns.fragments =
        (compile raw).patterns.fragments := by
  intro printed
  have hcompile := compile_printed (p := ⟨order, (compile raw).patterns.fragments⟩)
    (fun text htext => fits_of_mem_exact (horder.mem_iff.1 htext))
    (fun text htext => fits_of_mem_fragments htext) (horder.nodup_iff.2 (nodup_exact raw))
  rw [hcompile]
  exact ⟨rfl, horder, rfl⟩

/-- The bare word comes back in brackets and with a letter more, and before the other identity. In
both kinds of marks the other kind is part of the text. -/
theorem patterns_compile_printed_of_two_names :
    ["i\u0307stanbul".toList, "a\x7bb\x7d".toList].Perm
        (compile (some "[A\x7bb\x7d], \u0130stanbul ,\x7b C[d] \x7d")).patterns.exact ∧
      Patterns.printed ⟨["i\u0307stanbul".toList, "a\x7bb\x7d".toList], ["c[d]".toList]⟩ =
        "[i\u0307stanbul],[a\x7bb\x7d],\x7bc[d]\x7d".toList ∧
      (compile (some "[i\u0307stanbul],[a\x7bb\x7d],\x7bc[d]\x7d")).flaws = [] := by
  have hpatterns : (compile (some "[A\x7bb\x7d], \u0130stanbul ,\x7b C[d] \x7d")).patterns =
      ⟨["a\x7bb\x7d".toList, "i\u0307stanbul".toList], ["c[d]".toList]⟩ := by decide +kernel
  have horder : ["i\u0307stanbul".toList, "a\x7bb\x7d".toList].Perm
      (compile (some "[A\x7bb\x7d], \u0130stanbul ,\x7b C[d] \x7d")).patterns.exact := by
    rw [hpatterns]
    exact List.Perm.swap ..
  have hprinted : Patterns.printed ⟨["i\u0307stanbul".toList, "a\x7bb\x7d".toList],
      ["c[d]".toList]⟩ = "[i\u0307stanbul],[a\x7bb\x7d],\x7bc[d]\x7d".toList := by decide
  have hclean := (patterns_compile_printed horder).1
  rw [hpatterns, hprinted] at hclean
  exact ⟨horder, hprinted, hclean⟩

end Translucency.Exclusion
