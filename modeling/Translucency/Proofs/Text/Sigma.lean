import Mathlib.Data.List.Infix
import Mathlib.Data.List.TakeWhile
import Translucency.Proofs.Text.LowerCase

/-!
# Lower case and parts of a text

A part of a text should be found again in the lower case of the text, by its own lower case. For
most texts it is: a character is put in lower case without a look at its neighbours. The capital
sigma is not. It becomes a final sigma if some character with case stands before it and none after
it, so a part that ends in a sigma has one form of it where it stands alone and another one in the
middle of a word.

What decides the form is the nearest character on each side that casing does not look through, and
what stands beyond it does not matter. So a text is put in lower case in two ways at most on either
side (`within`), by whether characters with case come near it, and a text in a longer one is put in
lower case in one of these (`within_infix_lower`). `IsSteady` says that the text itself settles all
its sigmas. Then all the ways are one; if one sigma is open, there is a text around it in which the
lower case of the part does not occur. So steady texts are exactly the ones that are always found
(`lower_infix_iff`).
-/

namespace Translucency.Text

namespace LowerCase

/-! ## Neighbours -/

/-- The nearest character, from the front, that casing does not look through. -/
def neighbour? (s : List Char) : Option Char := s.find? fun c => !isIgnorable c

/-- Whether that character has case, or what is to be assumed if there is none. -/
def casedOr (default : Bool) (s : List Char) : Bool := ((neighbour? s).map isCased).getD default

theorem casedOr_cons (default : Bool) (c : Char) (s : List Char) :
    casedOr default (c :: s) = if isIgnorable c then casedOr default s else isCased c := by
  rw [casedOr, neighbour?, List.find?_cons]
  cases isIgnorable c with
  | true => rfl
  | false => rfl

/-- Where nothing is found in a text, what comes after it decides. -/
theorem casedOr_append (default : Bool) (s t : List Char) :
    casedOr default (s ++ t) = casedOr (casedOr default t) s := by
  induction s with
  | nil => rfl
  | cons c s ih => rw [List.cons_append, casedOr_cons, casedOr_cons, ih]

theorem startsCased_eq (s : List Char) : startsCased s = casedOr false s := by
  rw [startsCased, casedOr, neighbour?, List.find?_not_eq_head?_dropWhile]

/-- Going on by one character, what is nearest before the rest is that character, unless casing
looks through it. -/
theorem casedOr_reverse_cons (default : Bool) (c : Char) (s : List Char) :
    casedOr default (c :: s).reverse =
      casedOr (if isIgnorable c then default else isCased c) s.reverse := by
  rw [List.reverse_cons, casedOr_append, casedOr_cons]
  rfl

/-! ## A text among others -/

/-- The two forms of the small sigma. -/
def sigma (isFinal : Bool) : Char := if isFinal then '\u03c2' else '\u03c3'

/-- The lower case of a text by whether a character with case comes before it and whether one comes
after it. -/
def within (before after : Bool) : List Char → List Char
  | [] => []
  | c :: rest =>
    (if c = '\u03a3' then [sigma (before && !casedOr after rest)] else letter c) ++
      within (if isIgnorable c then before else isCased c) after rest

theorem after_eq_within (before : Bool) (s : List Char) :
    after before s = within before false s := by
  induction s generalizing before with
  | nil => rfl
  | cons c s ih => rw [after, within, ih, startsCased_eq, sigma]

theorem lower_eq_within (s : List Char) : lower s = within false false s := after_eq_within false s

/-- Each part of a text is put in lower case as the other one comes before or after it. -/
theorem within_append (before after : Bool) (s t : List Char) :
    within before after (s ++ t) =
      within before (casedOr after t) s ++ within (casedOr before s.reverse) after t := by
  induction s generalizing before with
  | nil => rfl
  | cons c s ih =>
    rw [List.cons_append, within, within, ih, casedOr_append, casedOr_reverse_cons,
      List.append_assoc]

/-- A part of a text is found in its lower case, put in lower case as what is around it says. -/
theorem within_infix_lower (a u b : List Char) :
    within (casedOr false a.reverse) (casedOr false b) u <:+: lower (a ++ u ++ b) := by
  rw [lower_eq_within, List.append_assoc, within_append, within_append, ← List.append_assoc]
  exact List.infix_append _ _ _

/-- A text without a capital sigma has one lower case. -/
theorem within_of_sigma_notMem {s : List Char} (h : '\u03a3' ∉ s) (before after : Bool) :
    within before after s = s.flatMap letter := by
  induction s generalizing before with
  | nil => rfl
  | cons c s ih =>
    rw [List.mem_cons, not_or] at h
    rw [within, if_neg (Ne.symm h.1), ih h.2, List.flatMap_cons]

/-! ## Steady texts -/

/-- What stands before and after a capital sigma settles its form, whatever comes further out:
nearest before it is a character without case, or nearest after it one with case, or there is some
character on both sides that casing does not look through. -/
inductive Settled (before after : List Char) : Prop
  | uncased {c : Char} (h : neighbour? before.reverse = some c) (hc : isCased c = false)
  | cased {c : Char} (h : neighbour? after = some c) (hc : isCased c = true)
  | enclosed {c d : Char} (hc : neighbour? before.reverse = some c) (hd : neighbour? after = some d)

/-- Whether a text settles the forms of all its capital sigmas. -/
def IsSteady (u : List Char) : Prop :=
  ∀ before after, u = before ++ '\u03a3' :: after → Settled before after

theorem settled_iff {before after : List Char} :
    Settled before after ↔ (neighbour? before.reverse).any (fun c => !isCased c) = true ∨
      (neighbour? after).any isCased = true ∨
      (neighbour? before.reverse).isSome = true ∧ (neighbour? after).isSome = true := by
  simp only [Option.any_eq_true, Option.isSome_iff_exists, Bool.not_eq_true']
  constructor
  · rintro (⟨h, hc⟩ | ⟨h, hc⟩ | ⟨hc, hd⟩)
    · exact .inl ⟨_, h, hc⟩
    · exact .inr (.inl ⟨_, h, hc⟩)
    · exact .inr (.inr ⟨⟨_, hc⟩, _, hd⟩)
  · rintro (⟨c, h, hc⟩ | ⟨c, h, hc⟩ | ⟨⟨c, hc⟩, d, hd⟩)
    · exact .uncased h hc
    · exact .cased h hc
    · exact .enclosed hc hd

instance (before after : List Char) : Decidable (Settled before after) :=
  decidable_of_iff _ settled_iff.symm

/-- The places of a text are looked at one by one. -/
theorem isSteady_iff {u : List Char} :
    IsSteady u ↔ ∀ i < u.length, u[i]? = some '\u03a3' → Settled (u.take i) (u.drop (i + 1)) := by
  constructor
  · intro h i hi hsigma
    refine h _ _ ?_
    rw [← (List.getElem?_eq_some_iff.1 hsigma).2, List.getElem_cons_drop, List.take_append_drop]
  · rintro h before after rfl
    have hplace := h before.length (by simp) (by simp)
    rwa [List.take_left, List.drop_length_add_append] at hplace

instance : DecidablePred IsSteady := fun _ => decidable_of_iff _ isSteady_iff.symm

theorem isSteady_of_sigma_notMem {u : List Char} (h : '\u03a3' ∉ u) : IsSteady u := by
  rintro before after rfl
  exact absurd (List.mem_append_right before (List.mem_cons_self ..)) h

theorem casedOr_of_some {s : List Char} {c : Char} (h : neighbour? s = some c) (default : Bool) :
    casedOr default s = isCased c := by
  rw [casedOr, h]
  rfl

theorem casedOr_of_none {s : List Char} (h : neighbour? s = none) (default : Bool) :
    casedOr default s = default := by
  rw [casedOr, h]
  rfl

theorem Settled.isFinal_eq {before after : List Char} (h : Settled before after) (p q : Bool) :
    (casedOr p before.reverse && !casedOr q after) =
      (casedOr false before.reverse && !casedOr false after) := by
  cases h with
  | uncased h hc => rw [casedOr_of_some h, casedOr_of_some h, hc]; rfl
  | cased h hc =>
    rw [casedOr_of_some h, casedOr_of_some h, hc, Bool.not_true, Bool.and_false, Bool.and_false]
  | enclosed hc hd =>
    rw [casedOr_of_some hc, casedOr_of_some hc, casedOr_of_some hd, casedOr_of_some hd]

/-- **A steady text has one lower case.** -/
theorem IsSteady.within_eq {u : List Char} (h : IsSteady u) (p q : Bool) :
    within p q u = lower u := by
  -- The rest of the text is looked at with all that stands before it, which the sigmas depend on.
  have hrest : ∀ rest before, u = before ++ rest →
      within (casedOr p before.reverse) q rest =
        within (casedOr false before.reverse) false rest := by
    intro rest
    induction rest with
    | nil => exact fun _ _ => rfl
    | cons c rest ih =>
      intro before hu
      -- The character moves over to what stands before.
      have hnext := ih (before ++ [c]) (by rw [hu, List.append_assoc]; rfl)
      rw [List.reverse_append, List.reverse_singleton, List.singleton_append, casedOr_cons,
        casedOr_cons] at hnext
      rw [within, within, hnext]
      split
      · next hc =>
        subst hc
        rw [(h before rest hu).isFinal_eq]
      · rfl
  rw [lower_eq_within]
  exact hrest u [] rfl

/-! ## Open sigmas -/

theorem isIgnorable_sigma : isIgnorable '\u03a3' = false := by decide +kernel

theorem isCased_sigma : isCased '\u03a3' = true := by decide +kernel

theorem sigma_notMem_of_neighbour?_eq_none {s : List Char} (h : neighbour? s = none) :
    '\u03a3' ∉ s := by
  intro hmem
  have hlooked := List.find?_eq_none.1 h '\u03a3' hmem
  rw [isIgnorable_sigma] at hlooked
  exact hlooked rfl

/-- A sigma has case itself, so that nothing on one side of it matters to the other side. -/
theorem within_append_sigma (p q : Bool) (before after : List Char) :
    within p q (before ++ '\u03a3' :: after) =
      within p true before ++
        sigma (casedOr p before.reverse && !casedOr q after) :: within true q after := by
  rw [within_append, casedOr_cons, within, if_pos rfl, isIgnorable_sigma, isCased_sigma]
  rfl

/-- A sigma that is not settled lies open on one side, and from there it can be turned into its
other form without a change anywhere else in the text. -/
theorem exists_within_ne {before after : List Char} (h : ¬ Settled before after) :
    ∃ p q isFinal x y, lower (before ++ '\u03a3' :: after) = x ++ sigma isFinal :: y ∧
      within p q (before ++ '\u03a3' :: after) = x ++ sigma (!isFinal) :: y := by
  simp only [lower_eq_within, within_append_sigma]
  cases hbefore : neighbour? before.reverse with
  | none =>
    -- Open in front. No character with case comes after, or that would settle it.
    have hsigma : '\u03a3' ∉ before := fun hmem =>
      sigma_notMem_of_neighbour?_eq_none hbefore (List.mem_reverse.2 hmem)
    have hafter : casedOr false after = false := by
      cases hnext : neighbour? after with
      | none => exact casedOr_of_none hnext false
      | some d =>
        rw [casedOr_of_some hnext, ← Bool.not_eq_true]
        exact fun hd => h (.cased hnext hd)
    refine ⟨true, false, false, before.flatMap letter, within true false after, ?_, ?_⟩
    · rw [within_of_sigma_notMem hsigma, casedOr_of_none hbefore, hafter]
      rfl
    · rw [within_of_sigma_notMem hsigma, casedOr_of_none hbefore, hafter]
      rfl
  | some c =>
    have hafter : neighbour? after = none := by
      rw [Option.eq_none_iff_forall_ne_some]
      exact fun d hd => h (.enclosed hbefore hd)
    have hcased : isCased c = true := by
      rw [← Bool.not_eq_false]
      exact fun hc => h (.uncased hbefore hc)
    have hsigma := sigma_notMem_of_neighbour?_eq_none hafter
    refine ⟨false, true, true, within false true before, after.flatMap letter, ?_, ?_⟩
    · rw [within_of_sigma_notMem hsigma, casedOr_of_some hbefore, casedOr_of_none hafter, hcased]
      rfl
    · rw [within_of_sigma_notMem hsigma, casedOr_of_some hbefore, casedOr_of_none hafter, hcased]
      rfl

/-- A letter, or nothing, to stand beside a text. -/
def flank (cased : Bool) : List Char := if cased then ['a'] else []

theorem lower_flanked (p q : Bool) (u : List Char) :
    lower (flank p ++ u ++ flank q) = flank p ++ within p q u ++ flank q := by
  have hcased : ∀ p, casedOr false (flank p) = p := by decide +kernel
  have hreverse : ∀ p, (flank p).reverse = flank p := by decide
  have hsmall : ∀ before after p, within before after (flank p) = flank p := by decide +kernel
  rw [lower_eq_within, List.append_assoc, within_append, within_append, hreverse, hcased, hcased,
    hsmall, hsmall, List.append_assoc]

/-- With one sigma changed, a text does not occur in itself any more: there is one sigma too few of
that form. -/
theorem not_infix_flanked (p q isFinal : Bool) (x y : List Char) :
    ¬ x ++ sigma isFinal :: y <:+: flank p ++ (x ++ sigma (!isFinal) :: y) ++ flank q := by
  intro h
  have hcount := h.count_le (sigma isFinal)
  have hflank : ∀ isFinal p, (flank p).count (sigma isFinal) = 0 := by decide
  have hother : ∀ isFinal, sigma (!isFinal) ≠ sigma isFinal := by decide
  simp only [List.count_append, List.count_cons_self, hflank,
    List.count_cons_of_ne (hother isFinal)] at hcount
  omega

end LowerCase

open LowerCase in
/-- **What is found in lower case wherever it occurs.** A text is steady exactly if its lower case
occurs in the lower case of every text that it occurs in. -/
theorem lower_infix_iff (u : List Char) :
    (∀ s, u <:+: s → lower u <:+: lower s) ↔ IsSteady u := by
  constructor
  · -- One open sigma is enough: put between the right neighbours, it takes its other form.
    rintro h before after rfl
    by_contra hopen
    obtain ⟨p, q, isFinal, x, y, halone, hwithin⟩ := exists_within_ne hopen
    have hinfix := h _ (List.infix_append (flank p) _ (flank q))
    rw [lower_flanked, halone, hwithin] at hinfix
    exact not_infix_flanked p q isFinal x y hinfix
  · rintro hsteady s ⟨a, b, rfl⟩
    rw [← hsteady.within_eq]
    exact within_infix_lower a u b

end Translucency.Text
