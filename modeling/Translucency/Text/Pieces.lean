/-!
# Cutting and searching texts

A separated list is cut at every separator, so `n` separators give `n + 1` pieces. A search looks
for the first place where a text occurs in another; the empty text occurs in every text.
-/

namespace Translucency.Text

/-- The pieces of a text between the occurrences of a separator; there is always one at least. -/
def pieces (sep : Char) : List Char → List (List Char)
  | [] => [[]]
  | c :: s =>
    if c = sep then [] :: pieces sep s
    else
      match pieces sep s with
      | [] => [[c]]
      | first :: rest => (c :: first) :: rest

def occursIn (needle : List Char) : List Char → Bool
  | [] => needle.isEmpty
  | c :: s => needle.isPrefixOf (c :: s) || occursIn needle s

/-- What follows the first occurrence of a text in another. -/
def afterFirst? (needle : List Char) : List Char → Option (List Char)
  | [] => if needle.isEmpty then some [] else none
  | c :: s =>
    if needle.isPrefixOf (c :: s) then some ((c :: s).drop needle.length)
    else afterFirst? needle s

/-- Joining with a separator between. -/
def join (sep : List Char) : List (List Char) → List Char
  | [] => []
  | [s] => s
  | s :: rest => s ++ sep ++ join sep rest

theorem pieces_ne_nil (sep : Char) (s : List Char) : pieces sep s ≠ [] := by
  cases s with
  | nil => simp [pieces]
  | cons c s =>
    unfold pieces
    split
    · simp
    · split <;> simp

/-- Joining the pieces gives the text back. -/
theorem join_pieces (sep : Char) (s : List Char) : join [sep] (pieces sep s) = s := by
  induction s with
  | nil => rfl
  | cons c s ih =>
    rw [pieces]
    split
    · next h =>
      subst h
      match hp : pieces c s, pieces_ne_nil c s with
      | first :: rest, _ => rw [hp] at ih; simp [join, ih]
    · match hp : pieces sep s, pieces_ne_nil sep s with
      | [first], _ => rw [hp] at ih; simpa [join] using ih
      | first :: second :: rest, _ => rw [hp] at ih; simpa [join] using ih

/-- No piece holds the separator. -/
theorem not_mem_of_mem_pieces {sep : Char} {s piece : List Char} (h : piece ∈ pieces sep s) :
    sep ∉ piece := by
  induction s generalizing piece with
  | nil => simp_all [pieces]
  | cons c s ih =>
    rw [pieces] at h
    split at h
    · rcases List.mem_cons.1 h with rfl | h
      · simp
      · exact ih h
    · next hc =>
      match hp : pieces sep s, pieces_ne_nil sep s with
      | first :: rest, _ =>
        rw [hp] at h ih
        rcases List.mem_cons.1 h with rfl | h
        · have := ih (List.mem_cons_self ..)
          simp [this, Ne.symm hc]
        · exact ih (List.mem_cons_of_mem _ h)

/-- A text joined from two has the pieces of both. -/
theorem pieces_append (sep : Char) (s t : List Char) :
    pieces sep (s ++ sep :: t) = pieces sep s ++ pieces sep t := by
  induction s with
  | nil => simp [pieces]
  | cons c s ih =>
    rw [List.cons_append, pieces, pieces, ih]
    split
    · rfl
    · match hp : pieces sep s, pieces_ne_nil sep s with
      | first :: rest, _ => rfl

/-- A text without the separator is one piece. -/
theorem pieces_of_not_mem {sep : Char} {s : List Char} (h : sep ∉ s) : pieces sep s = [s] := by
  induction s with
  | nil => rfl
  | cons c s ih =>
    rw [List.mem_cons, not_or] at h
    rw [pieces, if_neg (Ne.symm h.1), ih h.2]

/-- Two lists of pieces are joined by one more separator. -/
theorem join_append (sep : List Char) {before after : List (List Char)} (hbefore : before ≠ [])
    (hafter : after ≠ []) :
    join sep (before ++ after) = join sep before ++ (sep ++ join sep after) := by
  induction before with
  | nil => exact absurd rfl hbefore
  | cons piece rest ih =>
    cases rest with
    | nil =>
      obtain ⟨next, more, rfl⟩ := List.exists_cons_of_ne_nil hafter
      rw [List.singleton_append, join, join, List.append_assoc]
      simp
    | cons next rest =>
      have hrest := ih (List.cons_ne_nil next rest)
      rw [List.cons_append] at hrest
      simp only [List.cons_append, join, hrest, List.append_assoc]

/-- Texts without the separator are the pieces of the text that they are joined to. -/
theorem pieces_join {sep : Char} {texts : List (List Char)} (hne : texts ≠ [])
    (h : ∀ s ∈ texts, sep ∉ s) : pieces sep (join [sep] texts) = texts := by
  induction texts with
  | nil => exact absurd rfl hne
  | cons s rest ih =>
    have hs := pieces_of_not_mem (h s (List.mem_cons_self ..))
    cases rest with
    | nil => exact hs
    | cons next rest =>
      have hrest := ih (List.cons_ne_nil next rest) fun t ht => h t (List.mem_cons_of_mem s ht)
      have hjoin : join [sep] (s :: next :: rest) = s ++ sep :: join [sep] (next :: rest) :=
        join_append [sep] (List.cons_ne_nil s []) (List.cons_ne_nil next rest)
      rw [hjoin, pieces_append, hs, hrest]
      rfl

/-- The search finds a text exactly where it is an infix. -/
theorem occursIn_iff (needle s : List Char) : occursIn needle s = true ↔ needle <:+: s := by
  induction s with
  | nil => simp [occursIn, List.infix_nil]
  | cons c s ih =>
    rw [occursIn, Bool.or_eq_true, List.isPrefixOf_iff_prefix, ih, List.infix_cons_iff]

end Translucency.Text
