import Translucency.Text.LowerCase

/-!
# What lower case leaves alone

Putting a text in lower case is a matter of the whole of Unicode: characters become two, a sigma
looks at its neighbours, and letters outside ASCII may have a small letter of ASCII. Two things can
be said of it without the table. No text becomes empty (`lower_eq_nil_iff`). And a word of small
letters is the lower case of those texts only that anybody would expect (`lower_eq_iff`), namely
those that `Char.toLower`, which knows of ASCII alone, takes to it. The letter k is left out there:
it is the lower case of the sign for kelvin as well.
-/

namespace Translucency.Text

namespace LowerCase

/-! ## Nothing becomes empty -/

theorem letter_ne_nil (c : Char) : letter c ≠ [] := by
  unfold letter
  split
  · simp
  · split <;> simp

theorem after_eq_nil_iff (cased : Bool) (s : List Char) : after cased s = [] ↔ s = [] := by
  cases s with
  | nil => simp [after]
  | cons c s =>
    simp only [after, List.append_eq_nil_iff, reduceCtorEq, iff_false, not_and]
    intro h
    split at h
    · exact absurd h (by simp)
    · exact absurd h (letter_ne_nil c)

/-! ## Letters of a plain word -/

/-- Small letters that are the lower case of themselves and their capital only. -/
def plainLetters : List Char := "abcdefghijlmnopqrstuvwxyz".toList

/-- What is found for these letters one by one holds for each of them. Left to itself `decide` would
ask it of all the characters there are. -/
theorem forall_plainLetters {p : Char → Prop} [DecidablePred p]
    (h : plainLetters.all (fun d => decide (p d)) = true) : ∀ d ∈ plainLetters, p d :=
  fun d hd => of_decide_eq_true (List.all_eq_true.1 h d hd)

/-- No run of the table but that of the capitals leads to one of these letters. -/
theorem add_eq_of_covers {run : Run} (hrun : run ∈ runs) :
    ∀ d ∈ plainLetters, run.covers ((d.toNat : Int) - run.shift).toNat = true →
      ((d.toNat : Int) - run.shift).toNat + 32 = d.toNat := by
  have hall : runs.all (fun run => plainLetters.all fun d =>
      decide (run.covers ((d.toNat : Int) - run.shift).toNat = true →
        ((d.toNat : Int) - run.shift).toNat + 32 = d.toNat)) = true := by
    decide +kernel
  exact forall_plainLetters (List.all_eq_true.1 hall run hrun)

theorem letter_plain :
    ∀ d ∈ plainLetters, letter d = [d] ∧ letter (Char.ofNat (d.toNat - 32)) = [d] :=
  forall_plainLetters (by decide +kernel)

theorem toLower_plain :
    ∀ d ∈ plainLetters, d.toLower = d ∧ (Char.ofNat (d.toNat - 32)).toLower = d :=
  forall_plainLetters (by decide +kernel)

theorem lt_toNat_plain : ∀ d ∈ plainLetters, 32 < d.toNat :=
  forall_plainLetters (by decide +kernel)

/-- A character that ASCII takes to another one is the capital of that one. -/
theorem eq_or_eq_of_toLower {c d : Char} (h : c.toLower = d) :
    c = d ∨ c = Char.ofNat (d.toNat - 32) := by
  unfold Char.toLower at h
  split at h
  · next hcapital =>
    have hpoint : d.toNat = c.toNat + 32 := by
      have hle : c.toNat ≤ 90 := hcapital.2
      rw [← h]
      show (c.val + 32).toNat = _
      rw [UInt32.toNat_add, Char.toNat_val]
      exact Nat.mod_eq_of_lt (Nat.lt_of_le_of_lt (Nat.add_le_add_right hle 32) (by decide))
    exact .inr (by rw [hpoint, Nat.add_sub_cancel, Char.ofNat_toNat])
  · exact .inl h

/-- A point whose character is one of these letters is the point of the letter. -/
theorem eq_toNat_of_ofNat {n : Nat} {d : Char} (hd : d ∈ plainLetters) (h : Char.ofNat n = d) :
    n = d.toNat := by
  by_cases hvalid : n.isValidChar
  · rw [Char.ofNat, dif_pos hvalid] at h
    rw [← h]
    rfl
  · rw [Char.ofNat, dif_neg hvalid] at h
    subst h
    exact absurd hd (by decide)

theorem letter_eq_singleton_iff {c d : Char} (hd : d ∈ plainLetters) :
    letter c = [d] ↔ c.toLower = d := by
  constructor
  · intro h
    unfold letter at h
    split at h
    · cases h
    · split at h
      · next run hrun =>
        have hcovers := List.find?_some hrun
        have hpoint := eq_toNat_of_ofNat hd (List.singleton_inj.1 h)
        have hsmall := lt_toNat_plain d hd
        have hback : c.toNat = ((d.toNat : Int) - run.shift).toNat := by omega
        rw [hback] at hcovers
        have hcapital := add_eq_of_covers (List.mem_of_find?_eq_some hrun) d hd hcovers
        rw [← Char.ofNat_toNat c, show c.toNat = d.toNat - 32 by omega]
        exact (toLower_plain d hd).2
      · rw [List.singleton_inj.1 h]
        exact (toLower_plain d hd).1
  · intro h
    rcases eq_or_eq_of_toLower h with rfl | rfl
    · exact (letter_plain c hd).1
    · exact (letter_plain d hd).2

theorem letter_cases (c : Char) : letter c = ['i', '\u0307'] ∨ ∃ d, letter c = [d] := by
  unfold letter
  split
  · exact .inl rfl
  · split
    · exact .inr ⟨_, rfl⟩
    · exact .inr ⟨_, rfl⟩

/-- One character of a text and one letter of a word. -/
theorem after_cons_eq_cons_iff {cased : Bool} {c d : Char} {s w : List Char}
    (hd : d ∈ plainLetters) (hw : ∀ e ∈ w, e ∈ plainLetters) :
    after cased (c :: s) = d :: w ↔
      c.toLower = d ∧ after (if isIgnorable c then cased else isCased c) s = w := by
  rw [after]
  split
  · next hsigma =>
    -- Neither form of the small sigma is a letter of ASCII, and the capital is none either.
    subst hsigma
    refine iff_of_false (fun h => ?_) fun h => ?_
    · have hhead := (List.cons.inj h).1
      split at hhead <;> exact absurd (hhead ▸ hd) (by decide)
    · exact absurd (h.1 ▸ hd) (by decide)
  · rcases letter_cases c with hdotted | ⟨e, he⟩
    · refine iff_of_false (fun h => ?_) fun h => ?_
      · rw [hdotted] at h
        have hdot : '\u0307' ∈ w := (List.cons.inj h).2 ▸ List.mem_cons_self ..
        exact absurd (hw _ hdot) (by decide)
      · rw [(letter_eq_singleton_iff hd).2 h.1] at hdotted
        cases hdotted
    · rw [he, List.singleton_append, List.cons.injEq, ← letter_eq_singleton_iff hd, he,
        List.singleton_inj]

theorem after_eq_iff {cased : Bool} {s w : List Char} (hw : ∀ d ∈ w, d ∈ plainLetters) :
    after cased s = w ↔ s.map Char.toLower = w := by
  induction s generalizing cased w with
  | nil => exact Iff.rfl
  | cons c s ih =>
    cases w with
    | nil => rw [after_eq_nil_iff, List.map_eq_nil_iff]
    | cons d w =>
      have hrest : ∀ e ∈ w, e ∈ plainLetters := fun e he => hw e (List.mem_cons_of_mem d he)
      rw [after_cons_eq_cons_iff (hw d (List.mem_cons_self ..)) hrest, ih hrest, List.map_cons,
        List.cons.injEq]

end LowerCase

@[simp] theorem lower_eq_nil_iff {s : List Char} : lower s = [] ↔ s = [] :=
  LowerCase.after_eq_nil_iff false s

/-- **A word of small letters is the lower case of what ASCII takes to it, and of nothing else.** -/
theorem lower_eq_iff {s w : List Char} (hw : ∀ d ∈ w, d ∈ LowerCase.plainLetters) :
    lower s = w ↔ s.map Char.toLower = w := LowerCase.after_eq_iff hw

end Translucency.Text
