import Translucency.Proofs.Exclusion.Grammar

/-!
# Commas and the pieces between them

A list is looked at twice before its tokens are. The check of the commas goes by the text and looks
for a comma that only blanks part from the next one or from the end. The split goes by the pieces
between the commas, and drops the blank ones without a word. If the two did not agree, a token could
get lost unnoticed, or a list could be refused that has none missing.

They agree: both flaws are told from the pieces, the one by a blank piece inside and the other by a
blank one at the end (`hasDoubleComma_iff_inner`, `hasFinalComma_iff_last`). So what the split can
drop from a list that passes the check is its first piece alone: the whole of a blank list, or the
blanks before a comma at the start.
-/

namespace Translucency.Exclusion

open Text

/-! ## The pieces by their place -/

def firstPiece (list : List Char) : List Char := (pieces ',' list).head (pieces_ne_nil ',' list)

def lastPiece (list : List Char) : List Char := (pieces ',' list).getLast (pieces_ne_nil ',' list)

/-- The pieces other than the first and the last. -/
def innerPieces (list : List Char) : List (List Char) := (pieces ',' list).tail.dropLast

/-- A list with a comma in it has a first and a last piece. -/
theorem pieces_eq_of_two_le {list : List Char} (h : 2 ≤ (pieces ',' list).length) :
    pieces ',' list = firstPiece list :: (innerPieces list ++ [lastPiece list]) := by
  have hhead := List.cons_head_tail (pieces_ne_nil ',' list)
  have htail : (pieces ',' list).tail ≠ [] := by
    rw [← List.length_pos_iff, List.length_tail]
    omega
  have hlast : lastPiece list = (pieces ',' list).tail.getLast htail :=
    (List.getLast_tail htail).symm
  rw [firstPiece, innerPieces, hlast, List.dropLast_concat_getLast, hhead]

theorem mem_innerPieces_iff {list piece : List Char} :
    piece ∈ innerPieces list ↔
      ∃ before after, before ≠ [] ∧ after ≠ [] ∧ pieces ',' list = before ++ piece :: after := by
  constructor
  · intro h
    have hpos := List.length_pos_of_mem h
    rw [innerPieces, List.length_dropLast, List.length_tail] at hpos
    obtain ⟨before, after, hinner⟩ := List.append_of_mem h
    refine ⟨firstPiece list :: before, after ++ [lastPiece list], by simp, by simp, ?_⟩
    rw [pieces_eq_of_two_le (by omega), hinner]
    simp
  · rintro ⟨before, after, hbefore, hafter, hpieces⟩
    obtain ⟨first, before, rfl⟩ := List.exists_cons_of_ne_nil hbefore
    rw [innerPieces, hpieces, List.cons_append, List.tail_cons,
      List.dropLast_append_of_ne_nil (by simp), List.dropLast_cons_of_ne_nil hafter]
    simp

/-! ## The two flaws -/

theorem comma_notMem_of_blank {blanks : List Char} (h : ∀ c ∈ blanks, isBlank c = true) :
    ',' ∉ blanks := fun hmem => absurd (h ',' hmem) (by decide)

/-- Two commas with only blanks between are the ends of an inner piece, and a blank one. -/
theorem hasDoubleComma_iff_inner (list : List Char) :
    hasDoubleComma list = true ↔ ∃ piece ∈ innerPieces list, trim piece = [] := by
  rw [hasDoubleComma_iff]
  constructor
  · -- The blanks hold no comma, so they are one piece, and there are pieces on both sides.
    rintro ⟨before, blanks, after, hblanks, rfl⟩
    refine ⟨blanks, mem_innerPieces_iff.2 ⟨pieces ',' before, pieces ',' after,
      pieces_ne_nil ',' before, pieces_ne_nil ',' after, ?_⟩, trim_eq_nil_iff.2 hblanks⟩
    rw [pieces_append, pieces_append, pieces_of_not_mem (comma_notMem_of_blank hblanks)]
    rfl
  · -- The pieces on either side, joined again, are what stands around the two commas.
    rintro ⟨piece, hinner, hblank⟩
    obtain ⟨before, after, hbefore, hafter, hpieces⟩ := mem_innerPieces_iff.1 hinner
    refine ⟨join [','] before, piece, join [','] after, trim_eq_nil_iff.1 hblank, ?_⟩
    have hjoin : join [','] (piece :: after) = piece ++ ([','] ++ join [','] after) :=
      join_append [','] (List.cons_ne_nil piece []) hafter
    rw [← join_pieces ',' list, hpieces, join_append [','] hbefore (by simp), hjoin]
    rfl

/-- A comma with only blanks after it stands before the last piece, and a blank one. -/
theorem hasFinalComma_iff_last (list : List Char) :
    hasFinalComma list = true ↔ 2 ≤ (pieces ',' list).length ∧ trim (lastPiece list) = [] := by
  rw [hasFinalComma_iff]
  constructor
  · rintro ⟨before, blanks, hblanks, rfl⟩
    have hpieces : pieces ',' (before ++ ',' :: blanks) = pieces ',' before ++ [blanks] := by
      rw [pieces_append, pieces_of_not_mem (comma_notMem_of_blank hblanks)]
    have hpos := List.length_pos_iff.2 (pieces_ne_nil ',' before)
    refine ⟨?_, ?_⟩
    · rw [hpieces, List.length_append, List.length_singleton]
      omega
    · simp only [lastPiece, hpieces, List.getLast_concat]
      exact trim_eq_nil_iff.2 hblanks
  · rintro ⟨hlength, hblank⟩
    have hpieces := pieces_eq_of_two_le hlength
    rw [← List.cons_append] at hpieces
    refine ⟨join [','] (firstPiece list :: innerPieces list), lastPiece list,
      trim_eq_nil_iff.1 hblank, ?_⟩
    calc list = join [','] (pieces ',' list) := (join_pieces ',' list).symm
      _ = _ := by
        rw [hpieces, join_append [','] (by simp) (by simp)]
        rfl

/-! ## What the split drops -/

/-- A list that passes the check has no blank piece but its first. -/
theorem trim_ne_nil_of_mem_tail {list piece : List Char} (h : commaFlaw? list = none)
    (hpiece : piece ∈ (pieces ',' list).tail) : trim piece ≠ [] := by
  have hlength : 2 ≤ (pieces ',' list).length := by
    have hpos := List.length_pos_of_mem hpiece
    rw [List.length_tail] at hpos
    omega
  have hdouble : ¬ hasDoubleComma list = true := by
    intro hdouble
    rw [commaFlaw?, if_pos hdouble] at h
    cases h
  have hfinal : ¬ hasFinalComma list = true := by
    intro hfinal
    rw [commaFlaw?, if_neg hdouble, if_pos hfinal] at h
    cases h
  rw [hasDoubleComma_iff_inner] at hdouble
  rw [hasFinalComma_iff_last] at hfinal
  rw [pieces_eq_of_two_le hlength, List.tail_cons, List.mem_append, List.mem_singleton] at hpiece
  intro hblank
  rcases hpiece with hinner | rfl
  · exact hdouble ⟨piece, hinner, hblank⟩
  · exact hfinal ⟨hlength, hblank⟩

/-- The commas are in order exactly if no piece is blank but the first. -/
theorem commaFlaw?_eq_none_iff_tail (list : List Char) :
    commaFlaw? list = none ↔ ∀ piece ∈ (pieces ',' list).tail, trim piece ≠ [] := by
  refine ⟨fun h piece => trim_ne_nil_of_mem_tail h, fun h => ?_⟩
  have hdouble : ¬ hasDoubleComma list = true := by
    rw [hasDoubleComma_iff_inner]
    rintro ⟨piece, hpiece, hblank⟩
    exact h piece (List.dropLast_subset _ hpiece) hblank
  have hfinal : ¬ hasFinalComma list = true := by
    rw [hasFinalComma_iff_last]
    rintro ⟨hlength, hblank⟩
    have hlast : lastPiece list ∈ (pieces ',' list).tail := by
      rw [pieces_eq_of_two_le hlength, List.tail_cons]
      exact List.mem_append_right _ (List.mem_singleton_self _)
    exact h _ hlast hblank
  rw [commaFlaw?, if_neg hdouble, if_neg hfinal]

/-- **The check of the commas agrees with the split.** A blank piece between two others is a double
comma and goes first, a blank piece at the end of several is a final comma, and there is no other
flaw. So the split of a list that passes the check keeps all pieces in their order, trimmed, except
for a blank one at the start. -/
theorem commaFlaw?_eq_by_pieces (list : List Char) :
    commaFlaw? list =
        (if ∃ piece ∈ innerPieces list, trim piece = [] then some .consecutiveCommas
        else if 2 ≤ (pieces ',' list).length ∧ trim (lastPiece list) = [] then some .trailingComma
        else none) ∧
      (commaFlaw? list = none →
        tokens list =
          (if trim (firstPiece list) = [] then (pieces ',' list).tail
          else pieces ',' list).map trim) := by
  refine ⟨?_, fun h => ?_⟩
  · simp only [commaFlaw?, hasDoubleComma_iff_inner, hasFinalComma_iff_last]
  · have htail : ((pieces ',' list).tail.map trim).filter (!·.isEmpty) =
        (pieces ',' list).tail.map trim := by
      refine List.filter_eq_self.2 fun token htoken => ?_
      obtain ⟨piece, hpiece, rfl⟩ := List.mem_map.1 htoken
      rw [Bool.not_eq_true', List.isEmpty_eq_false_iff]
      exact trim_ne_nil_of_mem_tail h hpiece
    have hpieces : pieces ',' list = firstPiece list :: (pieces ',' list).tail :=
      (List.cons_head_tail (pieces_ne_nil ',' list)).symm
    rw [tokens, hpieces, List.map_cons, List.tail_cons]
    split
    · next hfirst => rw [hfirst, List.filter_cons_of_neg (by simp), htail]
    · next hfirst =>
      rw [List.filter_cons_of_pos (by simpa using hfirst), htail, List.map_cons]

/-- A comma after an em space at the start is no flaw, and the piece before it is dropped. -/
theorem commaFlaw?_eq_by_pieces_of_leading_comma :
    commaFlaw? "\u2003, [a b]\t,\n{c}".toList = none ∧
      tokens "\u2003, [a b]\t,\n{c}".toList = ["[a b]".toList, "{c}".toList] := by
  have h : commaFlaw? "\u2003, [a b]\t,\n{c}".toList = none := by decide
  exact ⟨h, ((commaFlaw?_eq_by_pieces _).2 h).trans (by decide)⟩

end Translucency.Exclusion
