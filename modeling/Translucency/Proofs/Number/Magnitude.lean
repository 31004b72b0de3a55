import Mathlib.Algebra.Group.Nat.Defs
import Mathlib.Tactic.SplitIfs
import Translucency.Number.Binary64

/-!
# How large a number may be

Rounding keeps the order of what is rounded (`Binary64.nearestRank_mono`): within a block of ranks
because the step is the same, and from one block to the next because a block never reaches beyond
the first rank of the one after it. So where a quotient is rounded to follows from where the ends of
an interval are rounded to, and these are computed.

An integer has a floating point number near it unless it is beyond the finite ones. The bound is not
the greatest finite number itself but half a step above it, from where on rounding goes up
(`Binary64.isFinite_ofInt_iff`).
-/

namespace Translucency.Binary64

/-! ## Quotients -/

theorem roundDiv_le (num den : Nat) : roundDiv num den ≤ num / den + 1 := by
  simp only [roundDiv]
  split_ifs <;> omega

theorem le_roundDiv (num den : Nat) : num / den ≤ roundDiv num den := by
  simp only [roundDiv]
  split_ifs <;> omega

theorem roundDiv_mono {a b : Nat} (h : a ≤ b) (den : Nat) : roundDiv a den ≤ roundDiv b den := by
  have hwhole : a / den ≤ b / den := Nat.div_le_div_right h
  rcases Nat.lt_or_eq_of_le hwhole with hlt | heq
  · have ha := roundDiv_le a den
    have hb := le_roundDiv b den
    omega
  · -- With the same whole part, the rest decides.
    have ha := Nat.div_add_mod a den
    have hb := Nat.div_add_mod b den
    rw [heq] at ha
    have hrest : a % den ≤ b % den := by omega
    simp only [roundDiv, heq]
    split_ifs <;> omega

/-! ## Blocks of ranks -/

/-- The block of ranks in which a number of grains lies. -/
def block (size : Nat) : Nat := size.log2 - 52

theorem nearestRank_eq (num den : Nat) :
    nearestRank num den = block (num * one / den) * 2 ^ 52 +
      roundDiv (num * one) (den * 2 ^ block (num * one / den)) := rfl

/-- What is rounded to a whole number of steps has 53 binary digits at most. -/
theorem div_block_lt (size : Nat) : size / 2 ^ block size < 2 ^ 53 := by
  rw [Nat.div_lt_iff_lt_mul (Nat.two_pow_pos _), ← Nat.pow_add]
  have hlog : size < 2 ^ (size.log2 + 1) := Nat.lt_log2_self
  have hpow : 2 ^ (size.log2 + 1) ≤ 2 ^ (53 + block size) :=
    Nat.pow_le_pow_right (by omega) (by unfold block; omega)
  omega

/-- Beyond the first block it has 53 binary digits at least. -/
theorem le_div_block {size : Nat} (h : block size ≠ 0) : 2 ^ 52 ≤ size / 2 ^ block size := by
  have hblock : 52 + block size = size.log2 := by
    unfold block at h ⊢
    omega
  have hne : size ≠ 0 := by
    rintro rfl
    exact h rfl
  rw [Nat.le_div_iff_mul_le (Nat.two_pow_pos _), ← Nat.pow_add, hblock]
  exact Nat.log2_self_le hne

theorem block_mono {a b : Nat} (h : a ≤ b) : block a ≤ block b := by
  unfold block
  by_cases hzero : a = 0
  · rw [hzero, Nat.log2_zero]
    omega
  · have hlog : a.log2 ≤ b.log2 :=
      (Nat.le_log2 (by omega)).2 (Nat.le_trans (Nat.log2_self_le hzero) h)
    omega

/-- **Rounding keeps the order.** -/
theorem nearestRank_mono {a b : Nat} (h : a ≤ b) (den : Nat) :
    nearestRank a den ≤ nearestRank b den := by
  have hscaled : a * one ≤ b * one := Nat.mul_le_mul_right one h
  have hblock := block_mono (Nat.div_le_div_right (c := den) hscaled)
  rw [nearestRank_eq, nearestRank_eq]
  rcases Nat.lt_or_eq_of_le hblock with hlt | heq
  · -- The lower number does not come further than to the second half of its block.
    have hbelow := roundDiv_le (a * one) (den * 2 ^ block (a * one / den))
    rw [← Nat.div_div_eq_div_mul] at hbelow
    have ha := div_block_lt (a * one / den)
    have habove := le_roundDiv (b * one) (den * 2 ^ block (b * one / den))
    rw [← Nat.div_div_eq_div_mul] at habove
    have hb := le_div_block (show block (b * one / den) ≠ 0 by omega)
    omega
  · rw [heq]
    exact Nat.add_le_add_left (roundDiv_mono hscaled _) _

/-! ## Integers -/

/-- The first integer that is rounded beyond the finite numbers. -/
def firstTooLarge : Nat := 2 ^ 1024 - 2 ^ 970

/-- **Which integers are too large.** -/
theorem isFinite_ofInt_iff (n : Int) : (ofInt n).isFinite = true ↔ n.natAbs < firstTooLarge := by
  have hlast : nearestRank (firstTooLarge - 1) 1 < 0x7ff0000000000000 := by decide +kernel
  have hfirst : ¬ nearestRank firstTooLarge 1 < 0x7ff0000000000000 := by decide +kernel
  have hfinite : (ofInt n).isFinite = true ↔ nearestRank n.natAbs 1 < 0x7ff0000000000000 := by
    rw [ofInt, ofRatio]
    split
    · next h => exact iff_of_true rfl h
    · next h => exact iff_of_false Bool.false_ne_true h
  rw [hfinite]
  constructor
  · intro h
    refine Nat.lt_of_not_le fun hge => hfirst ?_
    exact Nat.lt_of_le_of_lt (nearestRank_mono hge 1) h
  · intro h
    exact Nat.lt_of_le_of_lt (nearestRank_mono (Nat.le_sub_one_of_lt h) 1) hlast

/-- An integer that is short enough has a finite number near it. -/
theorem isFinite_ofInt {n : Int} {k : Nat} (h : n.natAbs < 2 ^ k) (hk : k ≤ 1022) :
    (ofInt n).isFinite = true := by
  -- The exponent is a variable at first, so that nothing tries to write the power out.
  have hfinite : ∀ m, k ≤ m → Nat.pow 2 m ≤ firstTooLarge → (ofInt n).isFinite = true :=
    fun m hm hbound => (isFinite_ofInt_iff n).2 <|
      Nat.lt_of_lt_of_le h (Nat.le_trans (Nat.pow_le_pow_right (by decide) hm) hbound)
  exact hfinite 1022 hk (by decide +kernel)

end Translucency.Binary64
