import Mathlib.Algebra.BigOperators.Group.Finset.Sigma
import Mathlib.Order.Interval.Finset.Nat
import Translucency.Proofs.Number.Numerals
import Translucency.Proofs.Source.Simulated

/-!
# What a window is known by

The identifier of a simulated window is its line, the sign `#` and the number of equal lines before
it. A line may hold the sign and digits as well, but the number holds no sign, so the last sign of
an identifier is where the line ends, and no two pairs of a line and a number share one
(`idOf_inj`).

The lines of a file are numbered from the first to the last, and each number is one more than that
of the equal line before. So a line that stands `n` times has the numbers below `n`, wherever it
stands (`mem_ids`), and no identifier is given twice (`nodup_ids`). That also counts what one list
of lines has in excess of another (`length_ids_filter`): of every line, the copies beyond those in
the other list.
-/

namespace Translucency.Simulation

open Text

/-! ## One identifier -/

/-- A text that ends with a sign and something without it ends so in one way only. -/
theorem append_cons_inj_of_notMem_right {sign : Char} {s t d e : List Char} (hd : sign ∉ d)
    (he : sign ∉ e) (h : s ++ sign :: d = t ++ sign :: e) : s = t ∧ d = e := by
  rcases List.append_eq_append_iff.1 h with ⟨rest, rfl, hrest⟩ | ⟨rest, rfl, hrest⟩
  · cases rest with
    | nil => exact ⟨(List.append_nil s).symm, (List.cons.inj hrest).2⟩
    | cons c rest =>
      exact absurd ((List.cons.inj hrest).2 ▸ List.mem_append_right _ (List.mem_cons_self ..)) hd
  · cases rest with
    | nil => exact ⟨List.append_nil t, (List.cons.inj hrest).2.symm⟩
    | cons c rest =>
      exact absurd ((List.cons.inj hrest).2 ▸ List.mem_append_right _ (List.mem_cons_self ..)) he

/-- **An identifier tells the line and its number.** -/
theorem idOf_inj {line line' : List Char} {n n' : Nat} (h : idOf line n = idOf line' n') :
    line = line' ∧ n = n' := by
  have hnumber : ∀ n : Nat, '#' ∉ (toString n).toList := fun n hmem =>
    absurd (Numeral.isDigit_of_mem_toString hmem) (by decide)
  obtain ⟨hline, hn⟩ := append_cons_inj_of_notMem_right (hnumber n) (hnumber n')
    (String.ofList_injective h)
  have hvalue := congrArg Numeral.value hn
  rw [Numeral.value_toString, Numeral.value_toString] at hvalue
  exact ⟨hline, hvalue⟩

/-! ## Numbered lines -/

/-- The identifiers of lines that describe windows. -/
def ids (lines : List (List Char)) : List String := (numbered [] lines).map (·.1)

/-- A line has the numbers from the number of its copies before on, one for each of its copies. -/
theorem mem_numbered {before lines : List (List Char)} {id : String} {line : List Char} :
    (id, line) ∈ numbered before lines ↔
      ∃ n, before.count line ≤ n ∧ n < before.count line + lines.count line ∧ idOf line n = id := by
  induction lines generalizing before with
  | nil =>
    constructor
    · intro h
      cases h
    · rintro ⟨n, hle, hlt, -⟩
      exact absurd (Nat.lt_of_le_of_lt hle hlt) (Nat.lt_irrefl _)
  | cons first rest ih =>
    rw [numbered, List.mem_cons, ih, Prod.mk.injEq]
    by_cases hline : line = first
    · subst hline
      rw [List.count_cons_self, List.count_cons_self]
      constructor
      · rintro (⟨rfl, -⟩ | ⟨n, hle, hlt, hid⟩)
        · exact ⟨_, Nat.le_refl _, by omega, rfl⟩
        · exact ⟨n, by omega, by omega, hid⟩
      · rintro ⟨n, hle, hlt, hid⟩
        rcases Nat.eq_or_lt_of_le hle with rfl | hlt'
        · exact .inl ⟨hid.symm, rfl⟩
        · exact .inr ⟨n, hlt', by omega, hid⟩
    · rw [List.count_cons_of_ne (Ne.symm hline), List.count_cons_of_ne (Ne.symm hline)]
      exact or_iff_right fun h => hline h.2

theorem numbered_append (before lines more : List (List Char)) :
    numbered before (lines ++ more) =
      numbered before lines ++ numbered (lines.reverse ++ before) more := by
  induction lines generalizing before with
  | nil => rfl
  | cons line rest ih =>
    rw [List.cons_append, numbered, ih, numbered, List.reverse_cons, List.append_assoc,
      List.singleton_append, List.cons_append]

theorem nodup_map_numbered (before lines : List (List Char)) :
    ((numbered before lines).map (·.1)).Nodup := by
  induction lines generalizing before with
  | nil => exact List.nodup_nil
  | cons line rest ih =>
    rw [numbered, List.map_cons, List.nodup_cons]
    refine ⟨?_, ih (line :: before)⟩
    intro hmem
    obtain ⟨⟨id, line'⟩, he, hid⟩ := List.mem_map.1 hmem
    obtain ⟨n, hle, -, heq⟩ := mem_numbered.1 he
    obtain ⟨rfl, rfl⟩ := idOf_inj (heq.trans hid)
    rw [List.count_cons_self] at hle
    exact absurd hle (Nat.not_succ_le_self _)

/-! ## The identifiers of lines -/

variable {lines old new : List (List Char)}

theorem nodup_ids (lines : List (List Char)) : (ids lines).Nodup := nodup_map_numbered [] lines

/-- A line has the numbers below the number of its copies. -/
theorem mem_ids {id : String} :
    id ∈ ids lines ↔ ∃ line n, n < lines.count line ∧ idOf line n = id := by
  constructor
  · intro h
    obtain ⟨⟨id, line⟩, he, rfl⟩ := List.mem_map.1 h
    obtain ⟨n, -, hlt, hid⟩ := mem_numbered.1 he
    rw [List.count_nil, Nat.zero_add] at hlt
    exact ⟨line, n, hlt, hid⟩
  · rintro ⟨line, n, hlt, hid⟩
    refine List.mem_map.2 ⟨(id, line), mem_numbered.2 ⟨n, ?_, ?_, hid⟩, rfl⟩
    · rw [List.count_nil]
      exact Nat.zero_le n
    · rwa [List.count_nil, Nat.zero_add]

theorem idOf_mem_ids {line : List Char} {n : Nat} :
    idOf line n ∈ ids lines ↔ n < lines.count line := by
  rw [mem_ids]
  constructor
  · rintro ⟨line', n', hlt, hid⟩
    obtain ⟨rfl, rfl⟩ := idOf_inj hid
    exact hlt
  · exact fun hlt => ⟨line, n, hlt, rfl⟩

/-- The order of the lines does not matter to the identifiers. -/
theorem ids_perm (h : new.Perm old) : (ids new).Perm (ids old) := by
  rw [List.perm_ext_iff_of_nodup (nodup_ids new) (nodup_ids old)]
  intro id
  simp only [mem_ids, h.count_eq]

/-- How many windows some lines describe in excess of others: of every line, the copies beyond those
in the other lines. -/
def excess (new old : List (List Char)) : Nat :=
  ∑ line ∈ new.toFinset, (new.count line - old.count line)

/-- **The identifiers that are new are counted line by line.** -/
theorem length_ids_filter (new old : List (List Char)) :
    ((ids new).filter (· ∉ ids old)).length = excess new old := by
  -- The new identifiers are those of a line and a number from the old copies to the new ones.
  let fresh := new.toFinset.sigma fun line => Finset.Ico (old.count line) (new.count line)
  have himage : ((ids new).filter (· ∉ ids old)).toFinset = fresh.image fun e => idOf e.1 e.2 := by
    ext id
    simp only [List.mem_toFinset, List.mem_filter, decide_eq_true_eq, Finset.mem_image]
    constructor
    · rintro ⟨hnew, hold⟩
      obtain ⟨line, n, hlt, rfl⟩ := mem_ids.1 hnew
      rw [idOf_mem_ids, Nat.not_lt] at hold
      have hline : line ∈ new := List.count_pos_iff.1 (Nat.zero_lt_of_lt hlt)
      refine ⟨⟨line, n⟩, Finset.mem_sigma.2 ⟨List.mem_toFinset.2 hline, ?_⟩, rfl⟩
      exact Finset.mem_Ico.2 ⟨hold, hlt⟩
    · rintro ⟨⟨line, n⟩, he, rfl⟩
      obtain ⟨hold, hlt⟩ := Finset.mem_Ico.1 (Finset.mem_sigma.1 he).2
      rw [idOf_mem_ids, idOf_mem_ids, Nat.not_lt]
      exact ⟨hlt, hold⟩
  have hinjective : Set.InjOn (fun e : (_ : List Char) × Nat => idOf e.1 e.2) ↑fresh := by
    rintro ⟨line, n⟩ - ⟨line', n'⟩ - hid
    obtain ⟨rfl, rfl⟩ := idOf_inj hid
    rfl
  rw [← List.toFinset_card_of_nodup ((nodup_ids new).filter _), himage,
    Finset.card_image_of_injOn hinjective, Finset.card_sigma]
  simp only [Nat.card_Ico, excess]

/-- Lines have nothing in excess of others if each has its copies among them. -/
theorem excess_eq_zero_iff : excess new old = 0 ↔ new.Subperm old := by
  rw [excess, Finset.sum_eq_zero_iff, List.subperm_ext_iff]
  simp only [List.mem_toFinset, Nat.sub_eq_zero_iff_le]

end Translucency.Simulation
