import Mathlib.Data.List.Forall2
import Translucency.Text.Lines
import Translucency.Text.Pieces

/-!
# Splitting joined lines

A text that was put together with line feeds does not come apart into the same lines: a line may
hold one of the other characters that end a line, and a carriage return at its end makes one end of
line with the line feed behind it. What can be said is that each line comes apart by itself, up to
empty lines between (`splitLines_append`). For whoever looks for lines with something in them that
is enough (`filterMap_splitLines_join`). The first line of a text is what stands before its first
line end, whatever follows (`exists_splitLines_eq_cons`).

A text that ends with a line end keeps its lines when another text is added
(`splitLines_append_of_getLast`), and so does a file, whose breaks are unified first
(`exists_unifyBreaks_append`). And if somebody takes care that what he writes is on one line each
time, and ends it, he reads back what he wrote (`splitLines_flatMap`). Raw lines end at line feeds
only, so there it is enough to write none inside a line (`forall₂_rawLines`).
-/

namespace Translucency.Text

/-! ## Texts on one line -/

/-- Whether a text holds nothing at which a line is split. -/
def IsLine (s : List Char) : Prop := ∀ c ∈ s, isLineEnd c = false

instance (s : List Char) : Decidable (IsLine s) := List.decidableBAll _ s

@[simp] theorem isLine_nil : IsLine [] := by simp [IsLine]

@[simp] theorem isLine_cons {c : Char} {s : List Char} :
    IsLine (c :: s) ↔ isLineEnd c = false ∧ IsLine s := by
  simp [IsLine]

@[simp] theorem isLine_append {s t : List Char} : IsLine (s ++ t) ↔ IsLine s ∧ IsLine t := by
  simp [IsLine, or_imp, forall_and]

theorem isLine_of_digits {s : List Char} (h : ∀ c ∈ s, c.isDigit = true) : IsLine s := by
  intro c hc
  have hdigit := h c hc
  cases hend : isLineEnd c with
  | false => rfl
  | true =>
    simp only [isLineEnd, Bool.or_eq_true, beq_iff_eq] at hend
    obtain ((((((((rfl | rfl) | rfl) | rfl) | rfl) | rfl) | rfl) | rfl) | rfl) | rfl := hend <;>
      cases hdigit

/-- Joined lines are one line, if the separator is. -/
theorem isLine_join {sep : List Char} (hsep : IsLine sep) {texts : List (List Char)}
    (h : ∀ s ∈ texts, IsLine s) : IsLine (join sep texts) := by
  induction texts with
  | nil => exact isLine_nil
  | cons s rest ih =>
    have hs := h s (List.mem_cons_self ..)
    have hrest := ih fun t ht => h t (List.mem_cons_of_mem s ht)
    cases rest with
    | nil => exact hs
    | cons next rest =>
      rw [join, isLine_append, isLine_append]
      · exact ⟨⟨hs, hsep⟩, hrest⟩
      · simp

/-- A text joined from two lists of texts, the second of them not empty. -/
theorem join_append_cons (sep : List Char) (before : List (List Char)) (s : List Char)
    (after : List (List Char)) :
    join sep (before ++ s :: after) =
      before.flatMap (· ++ sep) ++ join sep (s :: after) := by
  induction before with
  | nil => rfl
  | cons t rest ih =>
    have hne : rest ++ s :: after ≠ [] := by simp
    obtain ⟨u, us, hcons⟩ := List.exists_cons_of_ne_nil hne
    rw [List.cons_append, List.flatMap_cons, List.append_assoc, ← ih, hcons]
    simp [join]

/-- A character of a joined text comes from a text or from the separator. -/
theorem mem_join {sep : List Char} {texts : List (List Char)} {c : Char} (h : c ∈ join sep texts) :
    c ∈ sep ∨ ∃ text ∈ texts, c ∈ text := by
  induction texts with
  | nil => cases h
  | cons s rest ih =>
    have hs : c ∈ s → c ∈ sep ∨ ∃ text ∈ s :: rest, c ∈ text :=
      fun hc => .inr ⟨s, List.mem_cons_self .., hc⟩
    cases rest with
    | nil => exact hs h
    | cons next rest =>
      rw [join, List.mem_append, List.mem_append] at h
      · obtain (hc | hc) | hc := h
        · exact hs hc
        · exact .inl hc
        · obtain hsep | ⟨text, htext, htext'⟩ := ih hc
          · exact .inl hsep
          · exact .inr ⟨text, List.mem_cons_of_mem s htext, htext'⟩
      · simp

/-! ## One character -/

@[simp] theorem splitLines_nil : splitLines [] = [] := rfl

/-- A carriage return and a line feed end one line. -/
theorem splitLines_pair (s : List Char) : splitLines ('\r' :: '\n' :: s) = [] :: splitLines s :=
  rfl

theorem splitLines_lineEnd {c : Char} {s : List Char} (hc : isLineEnd c = true)
    (hpair : c = '\r' → s.head? ≠ some '\n') : splitLines (c :: s) = [] :: splitLines s := by
  rw [splitLines.eq_def]
  split
  · next h => cases h
  · next t h =>
    cases h
    exact absurd rfl (hpair rfl)
  · next d t _ h =>
    cases h
    rw [if_pos hc]

/-- The cases of the split say so of the character and the text behind it. -/
theorem head?_ne_of_not_pair {c : Char} {s : List Char}
    (hpair : ∀ t, c = '\r' → s = '\n' :: t → False) (hc : c = '\r') : s.head? ≠ some '\n' := by
  intro hhead
  obtain ⟨t, rfl⟩ := List.head?_eq_some_iff.1 hhead
  exact hpair t hc rfl

/-- Any other character stands at the start of the first line. -/
theorem splitLines_cons {c : Char} (hc : isLineEnd c = false) (s : List Char) :
    splitLines (c :: s) = (c :: (splitLines s).headD []) :: (splitLines s).tail := by
  rw [splitLines.eq_def]
  split
  · next h => cases h
  · next t h =>
    cases h
    cases hc
  · next d t _ h =>
    cases h
    rw [hc, if_neg Bool.false_ne_true]
    cases splitLines s <;> rfl

theorem splitLines_eq_nil_iff {s : List Char} : splitLines s = [] ↔ s = [] := by
  constructor
  · intro h
    rw [splitLines.eq_def] at h
    split at h
    · rfl
    · cases h
    · split at h
      · cases h
      · split at h <;> cases h
  · rintro rfl
    exact splitLines_nil

/-! ## Joined texts -/

/-- The line feed in the middle may add an empty line between the lines of both sides, and does
nothing else. -/
theorem splitLines_append (a b : List Char) :
    ∃ extra, (extra = [] ∨ extra = [[]]) ∧
      splitLines (a ++ '\n' :: b) = splitLines a ++ extra ++ splitLines b := by
  -- By the cases of the split itself: a pair, a line end, and a letter at the end or inside a line.
  induction a using splitLines.induct with
  | case1 =>
    refine ⟨[[]], .inr rfl, ?_⟩
    rw [List.nil_append, splitLines_lineEnd rfl fun h => absurd h (by decide)]
    rfl
  | case2 s ih =>
    obtain ⟨extra, hextra, ih⟩ := ih
    refine ⟨extra, hextra, ?_⟩
    rw [List.cons_append, List.cons_append, splitLines_pair, splitLines_pair, ih]
    rfl
  | case3 c s hpair hend ih =>
    by_cases hlast : c = '\r' ∧ s = []
    · -- The carriage return takes the line feed to itself.
      obtain ⟨rfl, rfl⟩ := hlast
      refine ⟨[], .inl rfl, ?_⟩
      rw [List.cons_append, List.nil_append, splitLines_pair, splitLines_lineEnd rfl (by simp)]
      rfl
    · obtain ⟨extra, hextra, ih⟩ := ih
      refine ⟨extra, hextra, ?_⟩
      have hne := head?_ne_of_not_pair hpair
      have hne' : c = '\r' → (s ++ '\n' :: b).head? ≠ some '\n' := by
        intro hc
        cases s with
        | nil => exact absurd ⟨hc, rfl⟩ hlast
        | cons d t => exact hne hc
      rw [List.cons_append, splitLines_lineEnd hend hne', splitLines_lineEnd hend hne, ih]
      rfl
  | case4 c s hpair hend hs ih =>
    -- The text ends with this letter, so the line feed ends its line and adds none.
    have hc : isLineEnd c = false := by simpa using hend
    rw [splitLines_eq_nil_iff] at hs
    subst hs
    refine ⟨[], .inl rfl, ?_⟩
    rw [List.cons_append, List.nil_append, splitLines_cons hc, splitLines_cons hc,
      splitLines_lineEnd rfl fun h => absurd h (by decide), splitLines_nil]
    rfl
  | case5 c s hpair hend first rest hs ih =>
    obtain ⟨extra, hextra, ih⟩ := ih
    refine ⟨extra, hextra, ?_⟩
    have hc : isLineEnd c = false := by simpa using hend
    rw [List.cons_append, splitLines_cons hc, splitLines_cons hc, ih, hs]
    rfl

/-- Where empty lines do not count, the lines of a joined text are those of the texts that were
joined. -/
theorem filterMap_splitLines_join {β : Type} {f : List Char → Option β} (hf : f [] = none)
    (texts : List (List Char)) :
    (splitLines (join ['\n'] texts)).filterMap f =
      texts.flatMap fun text => (splitLines text).filterMap f := by
  induction texts with
  | nil => simp [join]
  | cons text rest ih =>
    cases rest with
    | nil => simp [join]
    | cons next rest =>
      obtain ⟨extra, hextra, hsplit⟩ := splitLines_append text (join ['\n'] (next :: rest))
      have hnone : extra.filterMap f = [] := by
        obtain rfl | rfl := hextra
        · rfl
        · simp [hf]
      rw [join, List.append_assoc, List.singleton_append, hsplit, List.flatMap_cons, ← ih]
      simp [hnone]
      · simp

/-! ## Texts that end with a line end -/

/-- Behind a line end other than a carriage return, another text adds its own lines. -/
theorem splitLines_append_of_getLast {s : List Char}
    (hlast : ∀ c ∈ s.getLast?, isLineEnd c = true ∧ c ≠ '\r') (t : List Char) :
    splitLines (s ++ t) = splitLines s ++ splitLines t := by
  have hrest : ∀ {c s}, (∀ d ∈ (c :: s).getLast?, isLineEnd d = true ∧ d ≠ '\r') →
      ∀ d ∈ s.getLast?, isLineEnd d = true ∧ d ≠ '\r' := by
    intro c s h d hd
    rw [List.getLast?_cons, Option.mem_def.1 hd] at h
    exact h d rfl
  induction s using splitLines.induct with
  | case1 => rfl
  | case2 s ih =>
    rw [List.cons_append, List.cons_append, splitLines_pair, splitLines_pair, ih, List.cons_append]
    exact hrest (hrest hlast)
  | case3 c s hpair hend ih =>
    have hne := head?_ne_of_not_pair hpair
    have hne' : c = '\r' → (s ++ t).head? ≠ some '\n' := by
      intro hc
      cases s with
      | nil => exact absurd hc (hlast c rfl).2
      | cons d s => exact hne hc
    rw [List.cons_append, splitLines_lineEnd hend hne', splitLines_lineEnd hend hne,
      ih (hrest hlast), List.cons_append]
  | case4 c s hpair hend hs ih =>
    rw [splitLines_eq_nil_iff] at hs
    subst hs
    exact absurd (hlast c rfl).1 hend
  | case5 c s hpair hend first rest hs ih =>
    have hc : isLineEnd c = false := by simpa using hend
    rw [List.cons_append, splitLines_cons hc, splitLines_cons hc, ih (hrest hlast), hs]
    rfl

theorem unifyBreaks_return {s : List Char} (h : s.head? ≠ some '\n') :
    unifyBreaks ('\r' :: s) = '\n' :: unifyBreaks s :=
  unifyBreaks.eq_3 s fun _ ht => h (ht ▸ rfl)

theorem unifyBreaks_cons {c : Char} (h : c ≠ '\r') (s : List Char) :
    unifyBreaks (c :: s) = c :: unifyBreaks s :=
  unifyBreaks.eq_4 c s (fun _ hc _ => h hc) h

/-- The breaks of a text are unified by themselves, up to a line feed behind it that belongs to its
last carriage return. -/
theorem exists_unifyBreaks_append (s t : List Char) :
    ∃ t', unifyBreaks (s ++ t) = unifyBreaks s ++ unifyBreaks t' := by
  induction s using unifyBreaks.induct with
  | case1 => exact ⟨t, rfl⟩
  | case2 s ih =>
    obtain ⟨t', ih⟩ := ih
    exact ⟨t', congrArg ('\n' :: ·) ih⟩
  | case3 s hpair ih =>
    have hne := head?_ne_of_not_pair (c := '\r') (fun t _ => hpair t) rfl
    by_cases hlast : s = [] ∧ t.head? = some '\n'
    · obtain ⟨rfl, hhead⟩ := hlast
      obtain ⟨t', rfl⟩ := List.head?_eq_some_iff.1 hhead
      exact ⟨t', rfl⟩
    · have hne' : (s ++ t).head? ≠ some '\n' := by
        cases s with
        | nil => exact fun hhead => hlast ⟨rfl, hhead⟩
        | cons d s => exact hne
      obtain ⟨t', ih⟩ := ih
      refine ⟨t', ?_⟩
      rw [List.cons_append, unifyBreaks_return hne', unifyBreaks_return hne, ih, List.cons_append]
  | case4 c s _ hc ih =>
    obtain ⟨t', ih⟩ := ih
    refine ⟨t', ?_⟩
    rw [List.cons_append, unifyBreaks_cons hc, unifyBreaks_cons hc, ih, List.cons_append]

theorem getLast?_unifyBreaks (s : List Char) :
    (unifyBreaks s).getLast? = s.getLast?.map fun c => if c = '\r' then '\n' else c := by
  induction s using unifyBreaks.induct with
  | case1 => rfl
  | case2 s ih =>
    rw [unifyBreaks, List.getLast?_cons, ih, List.getLast?_cons, List.getLast?_cons]
    cases s.getLast? <;> rfl
  | case3 s hpair ih =>
    rw [unifyBreaks.eq_3 s hpair, List.getLast?_cons, ih, List.getLast?_cons]
    cases s.getLast? <;> rfl
  | case4 c s _ hc ih =>
    rw [unifyBreaks_cons hc, List.getLast?_cons, ih, List.getLast?_cons]
    cases s.getLast? with
    | none => simp [if_neg hc]
    | some d => rfl

/-- What ends a text still does so when the breaks are unified, and is no carriage return. -/
theorem isLineEnd_of_mem_getLast?_unifyBreaks {s : List Char}
    (h : ∀ c ∈ s.getLast?, isLineEnd c = true) :
    ∀ c ∈ (unifyBreaks s).getLast?, isLineEnd c = true ∧ c ≠ '\r' := by
  intro c hc
  rw [getLast?_unifyBreaks] at hc
  obtain ⟨d, hd, rfl⟩ := Option.map_eq_some_iff.1 hc
  split
  · exact ⟨rfl, by decide⟩
  · next hne => exact ⟨h d hd, hne⟩

/-- A text without carriage returns has its breaks in one form already. -/
theorem unifyBreaks_of_not_mem {s : List Char} (h : '\r' ∉ s) : unifyBreaks s = s := by
  induction s with
  | nil => rfl
  | cons c s ih =>
    rw [List.mem_cons, not_or] at h
    rw [unifyBreaks_cons (Ne.symm h.1), ih h.2]

/-! ## Texts written line by line -/

/-- A line comes apart from what follows its line feed. -/
theorem IsLine.splitLines_append {line : List Char} (h : IsLine line) (s : List Char) :
    splitLines (line ++ '\n' :: s) = line :: splitLines s := by
  induction line with
  | nil => exact splitLines_lineEnd rfl fun hc => absurd hc (by decide)
  | cons c line ih =>
    obtain ⟨hc, hline⟩ := isLine_cons.1 h
    rw [List.cons_append, splitLines_cons hc, ih hline]
    rfl

/-- Lines that are written with a line feed behind each are read back. -/
theorem splitLines_flatMap {lines : List (List Char)} (h : ∀ line ∈ lines, IsLine line) :
    splitLines (lines.flatMap (· ++ ['\n'])) = lines := by
  induction lines with
  | nil => rfl
  | cons line rest ih =>
    rw [List.flatMap_cons, List.append_assoc, List.singleton_append,
      (h line (List.mem_cons_self ..)).splitLines_append,
      ih fun next hnext => h next (List.mem_cons_of_mem line hnext)]

theorem IsLine.not_mem_return {line : List Char} (h : IsLine line) : '\r' ∉ line :=
  fun hmem => absurd (h '\r' hmem) (by decide)

/-! ## The first line -/

/-- The first line of a text is what stands before its first line end. -/
theorem exists_splitLines_eq_cons {s : List Char} (h : s ≠ []) :
    ∃ rest, splitLines s = s.takeWhile (!isLineEnd ·) :: rest := by
  induction s with
  | nil => exact absurd rfl h
  | cons c s ih =>
    cases hc : isLineEnd c with
    | true =>
      by_cases hpair : c = '\r' ∧ s.head? = some '\n'
      · obtain ⟨rfl, hhead⟩ := hpair
        obtain ⟨t, rfl⟩ := List.head?_eq_some_iff.1 hhead
        exact ⟨_, splitLines_pair t⟩
      · have hne : c = '\r' → s.head? ≠ some '\n' := fun h hhead => hpair ⟨h, hhead⟩
        rw [splitLines_lineEnd hc hne]
        simp [hc]
    | false =>
      rw [splitLines_cons hc]
      by_cases hnil : s = []
      · subst hnil
        simp [hc]
      · obtain ⟨rest, hrest⟩ := ih hnil
        rw [hrest]
        simp [hc]

theorem IsLine.splitLines_eq {s : List Char} (h : IsLine s) (hne : s ≠ []) :
    splitLines s = [s] := by
  induction s with
  | nil => exact absurd rfl hne
  | cons c s ih =>
    obtain ⟨hc, hs⟩ := isLine_cons.1 h
    rw [splitLines_cons hc]
    by_cases hnil : s = []
    · rw [hnil, splitLines_nil]
      rfl
    · rw [ih hs hnil]
      rfl

/-- A line of a text stands somewhere in it. -/
theorem infix_of_mem_splitLines {s line : List Char} (h : line ∈ splitLines s) : line <:+: s := by
  induction s using splitLines.induct with
  | case1 => cases h
  | case2 s ih =>
    rw [splitLines_pair] at h
    obtain rfl | h := List.mem_cons.1 h
    · exact List.nil_infix
    · exact (ih h).trans (List.suffix_append ['\r', '\n'] s).isInfix
  | case3 c s hpair hend ih =>
    have hne := head?_ne_of_not_pair hpair
    rw [splitLines_lineEnd hend hne] at h
    obtain rfl | h := List.mem_cons.1 h
    · exact List.nil_infix
    · exact (ih h).trans (List.suffix_cons c s).isInfix
  | case4 c s hpair hend hs ih =>
    rw [splitLines_cons (by simpa using hend), hs] at h
    obtain rfl := List.mem_singleton.1 h
    exact (List.cons_prefix_cons.2 ⟨rfl, List.nil_prefix⟩).isInfix
  | case5 c s hpair hend first rest hs ih =>
    rw [splitLines_cons (by simpa using hend), hs] at h
    obtain rfl | h := List.mem_cons.1 h
    · have hne : s ≠ [] := by
        rintro rfl
        cases hs
      -- The first line of the rest is what stands before its first line end, hence a prefix.
      obtain ⟨_, hsplit⟩ := exists_splitLines_eq_cons hne
      rw [hs] at hsplit
      injection hsplit with hfirst _
      rw [List.headD_cons, hfirst]
      exact (List.cons_prefix_cons.2 ⟨rfl, List.takeWhile_prefix _⟩).isInfix
    · exact (ih (hs ▸ List.mem_cons_of_mem first h)).trans (List.suffix_cons c s).isInfix

/-! ## Raw lines -/

/-- A line comes apart from what follows its line feed, which stays with it. -/
theorem rawLines_append {line : List Char} (h : '\n' ∉ line) (s : List Char) :
    rawLines (line ++ '\n' :: s) = (line ++ ['\n']) :: rawLines s := by
  induction line with
  | nil => rfl
  | cons c line ih =>
    rw [List.mem_cons, not_or] at h
    rw [List.cons_append, rawLines, if_neg (Ne.symm h.1), ih h.2]
    rfl

/-- A text without line feeds is one line, if it is anything. -/
theorem rawLines_of_not_mem {line : List Char} (h : '\n' ∉ line) (hne : line ≠ []) :
    rawLines line = [line] := by
  induction line with
  | nil => exact absurd rfl hne
  | cons c line ih =>
    rw [List.mem_cons, not_or] at h
    rw [rawLines, if_neg (Ne.symm h.1)]
    by_cases hnil : line = []
    · rw [hnil]
      rfl
    · rw [ih h.2 hnil]

/-- Whether a raw line is that of a line: with the line feed that ends it, or without. -/
def IsRaw (raw line : List Char) : Prop := raw = line ∨ raw = line ++ ['\n']

/-- Joined lines are read back, whether the last of them is ended or not. -/
theorem forall₂_rawLines {lines : List (List Char)} (hlines : ∀ line ∈ lines, '\n' ∉ line)
    (hlast : lines.getLast? ≠ some []) {ending : List Char}
    (hending : ending = [] ∨ ending = ['\n']) (hne : lines ≠ []) :
    List.Forall₂ IsRaw (rawLines (join ['\n'] lines ++ ending)) lines := by
  induction lines with
  | nil => exact absurd rfl hne
  | cons line rest ih =>
    have hline := hlines line (List.mem_cons_self ..)
    cases rest with
    | nil =>
      rw [join]
      obtain rfl | rfl := hending
      · have hnil : line ≠ [] := fun h => hlast (congrArg (fun l => [l].getLast?) h)
        rw [List.append_nil, rawLines_of_not_mem hline hnil]
        exact .cons (.inl rfl) .nil
      · rw [rawLines_append hline]
        exact .cons (.inr rfl) .nil
    | cons next rest =>
      rw [join, List.append_assoc, List.append_assoc, List.singleton_append, rawLines_append hline]
      · refine .cons (.inr rfl) (ih ?_ ?_ (List.cons_ne_nil next rest))
        · exact fun l hl => hlines l (List.mem_cons_of_mem line hl)
        · rwa [List.getLast?_cons_cons] at hlast
      · exact List.cons_ne_nil next rest

/-- The raw lines of some lines and more lines are those of each. -/
theorem exists_append_of_forall₂ {raws lines more : List (List Char)}
    (h : List.Forall₂ IsRaw raws (lines ++ more)) :
    ∃ before after, raws = before ++ after ∧ List.Forall₂ IsRaw before lines ∧
      List.Forall₂ IsRaw after more :=
  ⟨raws.take lines.length, raws.drop lines.length, (List.take_append_drop ..).symm,
    List.forall₂_take_append _ _ _ h, List.forall₂_drop_append _ _ _ h⟩

end Translucency.Text
