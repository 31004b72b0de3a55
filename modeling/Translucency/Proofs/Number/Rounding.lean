import Mathlib.Order.Monotone.Basic
import Translucency.Proofs.Number.Magnitude

/-!
# Rounding to the nearest number

Every number that is not exact already comes out of one place, which computes a rank from a
quotient (`nearestRank`). What it should compute can be said without blocks, shifts and digits: of
all ranks the one whose size is nearest to the quotient, and of two that are equally near the even
one (`IsNearest`). Ranks go on beyond the finite numbers, and a quotient whose nearest rank is there
overflows (`Rounds`).

The steps from rank to rank never get smaller (`grains_succ`), so only the neighbours of a rank can
be nearer than it. On both sides they are a whole step away, with one exception: below the first
rank of a block the steps are half as long. But a quotient is never rounded up to such a rank, for
the block is chosen by the quotient.
-/

namespace Translucency.Binary64

/-! ## The sizes of neighbours -/

/-- Where a rank stands in its block. The first block is twice as long as the others. -/
theorem exists_block (rank : Nat) :
    ∃ b q, rank = b * 2 ^ 52 + q ∧ q < 2 ^ 53 ∧ (b ≠ 0 → 2 ^ 52 ≤ q) ∧ b = rank / 2 ^ 52 - 1 := by
  refine ⟨rank / 2 ^ 52 - 1, rank - (rank / 2 ^ 52 - 1) * 2 ^ 52, ?_, ?_, ?_, rfl⟩
  · omega
  · omega
  · omega

/-- The sizes of a block go in steps of one power of two, up to the first one of the next block. -/
theorem grains_block {b q : Nat} (hq : q ≤ 2 ^ 53) (hb : b ≠ 0 → 2 ^ 52 ≤ q) :
    grains (b * 2 ^ 52 + q) = q * 2 ^ b := by
  simp only [grains, Nat.pow_eq]
  split_ifs with hfirst
  · -- Ranks below the first full block are sizes.
    have hzero : b = 0 := by omega
    rw [hzero, Nat.zero_mul, Nat.zero_add, Nat.pow_zero, Nat.mul_one]
  · rcases Nat.lt_or_eq_of_le hq with hlt | heq
    · have hindex : (b * 2 ^ 52 + q) / 2 ^ 52 - 1 = b := by omega
      have hplace : 2 ^ 52 + (b * 2 ^ 52 + q) % 2 ^ 52 = q := by omega
      rw [hindex, hplace]
    · -- The end of a block is the first rank of the next one, with twice the step.
      have hindex : (b * 2 ^ 52 + q) / 2 ^ 52 - 1 = b + 1 := by omega
      have hplace : (b * 2 ^ 52 + q) % 2 ^ 52 = 0 := by omega
      rw [hindex, hplace, heq, Nat.add_zero, Nat.pow_succ 2 b, Nat.pow_succ 2 52, Nat.mul_assoc,
        Nat.mul_comm (2 ^ b) 2]

theorem grains_succ (rank : Nat) : grains (rank + 1) = grains rank + 2 ^ (rank / 2 ^ 52 - 1) := by
  obtain ⟨b, q, hrank, hq, hb, hblock⟩ := exists_block rank
  have hnext : rank + 1 = b * 2 ^ 52 + (q + 1) := by omega
  rw [hnext, grains_block (by omega) fun h => by have := hb h; omega, ← hblock, hrank,
    grains_block (by omega) hb, Nat.add_mul, Nat.one_mul]

theorem strictMono_grains : StrictMono grains :=
  strictMono_nat_of_lt_succ fun rank => by
    rw [grains_succ]
    exact Nat.lt_add_of_pos_right (Nat.two_pow_pos _)

/-- The ranks above one of a block are a step of the block away at least, and only the next rank is
no further away. -/
theorem grains_above {b q rank r : Nat} (hrank : rank = b * 2 ^ 52 + q) (hb : b ≠ 0 → 2 ^ 52 ≤ q)
    (hr : rank < r) :
    grains rank + 2 ^ b ≤ grains r ∧ (grains r = grains rank + 2 ^ b → r = rank + 1) := by
  have hstep : 2 ^ b ≤ 2 ^ (rank / 2 ^ 52 - 1) := Nat.pow_le_pow_right (by decide) (by omega)
  have hnext := grains_succ rank
  have hmono := strictMono_grains.monotone (show rank + 1 ≤ r from hr)
  refine ⟨by omega, fun heq => ?_⟩
  have hle : r ≤ rank + 1 := strictMono_grains.le_iff_le.1 (by omega)
  omega

/-- The same holds for the ranks below one, unless it is the first of its block. -/
theorem grains_below {b q rank r : Nat} (hrank : rank = b * 2 ^ 52 + q) (hb : b = 0 ∨ 2 ^ 52 < q)
    (hr : r < rank) :
    grains r + 2 ^ b ≤ grains rank ∧ (grains r + 2 ^ b = grains rank → r + 1 = rank) := by
  obtain ⟨rank, rfl⟩ := Nat.exists_eq_add_one_of_ne_zero (Nat.ne_zero_of_lt hr)
  have hstep : 2 ^ b ≤ 2 ^ (rank / 2 ^ 52 - 1) := Nat.pow_le_pow_right (by decide) (by omega)
  have hnext := grains_succ rank
  have hmono := strictMono_grains.monotone (Nat.le_of_lt_succ hr)
  refine ⟨by omega, fun heq => ?_⟩
  have hle : rank ≤ r := strictMono_grains.le_iff_le.1 (by omega)
  omega

/-! ## Quotients -/

/-- A quotient is rounded by half a unit at most, and by a whole half to an even number only. -/
theorem roundDiv_spec (num : Nat) {den : Nat} (hden : 0 < den) :
    2 * num ≤ 2 * (roundDiv num den * den) + den ∧ 2 * (roundDiv num den * den) ≤ 2 * num + den ∧
      (2 * num = 2 * (roundDiv num den * den) + den ∨ 2 * (roundDiv num den * den) = 2 * num + den →
        roundDiv num den % 2 = 0) := by
  have hnum := Nat.div_add_mod num den
  have hrest := Nat.mod_lt num hden
  rw [Nat.mul_comm] at hnum
  simp only [roundDiv]
  split_ifs with hlow hhigh
  · omega
  · rw [Nat.add_mul, Nat.one_mul]
    omega
  · -- Exactly half: the even one of the two is taken.
    rcases Nat.mod_two_eq_zero_or_one (num / den) with heven | hodd
    · rw [heven, Nat.add_zero]
      omega
    · rw [hodd, Nat.add_mul, Nat.one_mul]
      omega

/-! ## The nearest rank -/

/-- How far the size of a rank is from a quotient, in grains, times the denominator. -/
def offset (num den rank : Nat) : Nat :=
  ((num * one : Nat) - (grains rank * den : Nat) : Int).natAbs

/-- Whether a rank is the nearest one to a quotient: no other is nearer, and if another is as near,
then this one is even. -/
def IsNearest (num den rank : Nat) : Prop :=
  ∀ r, r ≠ rank → offset num den rank < offset num den r ∨
    offset num den rank = offset num den r ∧ rank % 2 = 0

/-- The number that a quotient is rounded to: the nearest one, or infinity if that one is beyond the
finite numbers. -/
inductive Rounds (negative : Bool) (num den : Nat) : Binary64 → Prop
  | finite {rank : Fin 0x7ff0000000000000} (h : IsNearest num den rank) :
    Rounds negative num den (.finite negative rank)
  | overflow {rank : Nat} (h : IsNearest num den rank) (hrank : 0x7ff0000000000000 ≤ rank) :
    Rounds negative num den (.infinity negative)

section Nearest

variable {num den : Nat}

/-- The rank that is computed, its place in its block, and how far it is from the quotient in units
of the steps of that block. -/
theorem nearestRank_place (num : Nat) (hden : 0 < den) :
    ∃ b q, nearestRank num den = b * 2 ^ 52 + q ∧ q ≤ 2 ^ 53 ∧ (b ≠ 0 → 2 ^ 52 ≤ q) ∧
      grains (nearestRank num den) * den = q * (den * 2 ^ b) ∧
      (b ≠ 0 → 2 ^ 52 * (den * 2 ^ b) ≤ num * one) ∧ q = roundDiv (num * one) (den * 2 ^ b) := by
  have hrank := nearestRank_eq num den
  generalize hb : block (num * one / den) = b at hrank
  have hquotient : num * one / (den * 2 ^ b) = num * one / den / 2 ^ b :=
    (Nat.div_div_eq_div_mul ..).symm
  have hq : roundDiv (num * one) (den * 2 ^ b) ≤ 2 ^ 53 := by
    have hlt := div_block_lt (num * one / den)
    have hle := roundDiv_le (num * one) (den * 2 ^ b)
    rw [hb] at hlt
    omega
  have hfirst : b ≠ 0 → 2 ^ 52 ≤ num * one / (den * 2 ^ b) := fun hne => by
    have hle := le_div_block (show block (num * one / den) ≠ 0 by rwa [hb])
    rwa [hquotient, ← hb]
  have hlow : b ≠ 0 → 2 ^ 52 ≤ roundDiv (num * one) (den * 2 ^ b) := fun hne =>
    Nat.le_trans (hfirst hne) (le_roundDiv ..)
  -- The size of the rank is the rounded quotient times the step, whatever block it ended up in.
  refine ⟨b, _, hrank, hq, hlow, ?_, fun hne => ?_, rfl⟩
  · rw [hrank, grains_block hq hlow, Nat.mul_assoc, Nat.mul_comm (2 ^ b) den]
  · exact (Nat.le_div_iff_mul_le (Nat.mul_pos hden (Nat.two_pow_pos b))).1 (hfirst hne)

/-- No rank is nearer than the one that is computed, and if another is as near, that one is odd. -/
theorem nearestRank_spec (hden : 0 < den) {r : Nat} (hr : r ≠ nearestRank num den) :
    offset num den (nearestRank num den) < offset num den r ∨
      offset num den (nearestRank num den) = offset num den r ∧
        nearestRank num den % 2 = 0 ∧ r % 2 = 1 := by
  obtain ⟨b, q, hrank, -, hb, hsize, hquotient, hq⟩ := nearestRank_place num hden
  -- From here on the rank is known by its size and by its place only.
  generalize nearestRank num den = rank at hr hrank hsize ⊢
  have hunit : 0 < den * 2 ^ b := Nat.mul_pos hden (Nat.two_pow_pos b)
  obtain ⟨hup, hdown, hhalf⟩ := roundDiv_spec (num * one) hunit
  rw [← hq, ← hsize] at hup hdown hhalf
  have hparity : rank % 2 = q % 2 := by omega
  have hscale : ∀ size, (size + 2 ^ b) * den = size * den + den * 2 ^ b := fun size => by
    rw [Nat.add_mul, Nat.mul_comm (2 ^ b) den]
  unfold offset
  rcases Nat.lt_or_gt_of_ne hr with hbelow | habove
  · by_cases hfirst : b = 0 ∨ 2 ^ 52 < q
    · obtain ⟨hstep, hnext⟩ := grains_below hrank hfirst hbelow
      -- More than a step away is too far. Just a step away there may be a tie, and parity decides.
      rcases Nat.lt_or_eq_of_le hstep with hfar | hnear
      · have hscaled := Nat.mul_lt_mul_of_pos_right hfar hden
        rw [hscale] at hscaled
        omega
      · have hscaled := congrArg (· * den) hnear
        simp only [hscale] at hscaled
        have hodd := hnext hnear
        omega
    · -- The first of its block. The quotient is not below it, and so it is nearer than all below.
      have hlt := Nat.mul_lt_mul_of_pos_right (strictMono_grains hbelow) hden
      have hle : grains rank * den ≤ num * one := by
        have hfirst' : q = 2 ^ 52 := by omega
        rw [hsize, hfirst']
        exact hquotient (by omega)
      omega
  · obtain ⟨hstep, hnext⟩ := grains_above hrank hb habove
    rcases Nat.lt_or_eq_of_le hstep with hfar | hnear
    · have hscaled := Nat.mul_lt_mul_of_pos_right hfar hden
      rw [hscale] at hscaled
      omega
    · have hscaled := congrArg (· * den) hnear
      simp only [hscale] at hscaled
      have hodd := hnext hnear.symm
      omega

/-- **What is computed is the nearest rank.** -/
theorem isNearest_iff (hden : 0 < den) {rank : Nat} :
    IsNearest num den rank ↔ rank = nearestRank num den := by
  constructor
  · -- Two ranks can only be equally near if one of them is odd, and that one is not the nearest.
    intro h
    by_contra hne
    have hcomputed := nearestRank_spec hden hne
    have hother := h _ (Ne.symm hne)
    omega
  · rintro rfl r hr
    rcases nearestRank_spec hden hr with hlt | ⟨heq, heven, -⟩
    · exact .inl hlt
    · exact .inr ⟨heq, heven⟩

/-- Rounding gives the nearest number, or overflows. -/
theorem rounds_iff (hden : 0 < den) {negative : Bool} {x : Binary64} :
    Rounds negative num den x ↔ x = ofRatio negative num den := by
  rw [ofRatio]
  constructor
  · rintro (h | ⟨h, hrank⟩)
    · have hcomputed := (isNearest_iff hden).1 h
      rw [dif_pos (by omega)]
      simp only [← hcomputed]
    · rw [(isNearest_iff hden).1 h] at hrank
      rw [dif_neg (by omega)]
  · rintro rfl
    split
    · exact .finite ((isNearest_iff hden).2 rfl)
    · next hrank => exact .overflow ((isNearest_iff hden).2 rfl) (Nat.not_lt.1 hrank)

end Nearest

/-! ## Decimals -/

/-- A quotient below half a grain is rounded to zero. -/
theorem nearestRank_eq_zero {num den : Nat} (h : 2 * (num * one) < den) :
    nearestRank num den = 0 := by
  have hzero : num * one / den = 0 := Nat.div_eq_of_lt (by omega)
  have hrest : num * one % den = num * one := Nat.mod_eq_of_lt (by omega)
  have hblock : block 0 = 0 := rfl
  rw [nearestRank_eq, hzero, hblock, Nat.pow_zero, Nat.mul_one, roundDiv, hzero, hrest, if_pos h,
    Nat.zero_mul]

theorem roundDiv_mul_left {k : Nat} (hk : 0 < k) (num den : Nat) :
    roundDiv (k * num) (k * den) = roundDiv num den := by
  have hrest : 2 * (k * num % (k * den)) = k * (2 * (num % den)) := by
    rw [Nat.mul_mod_mul_left, Nat.mul_left_comm]
  simp only [roundDiv, Nat.mul_div_mul_left _ _ hk, hrest, Nat.mul_lt_mul_left hk]

/-- A quotient that is a whole number is rounded as that number is. -/
theorem nearestRank_mul_left {k : Nat} (hk : 0 < k) (num : Nat) :
    nearestRank (k * num) k = nearestRank num 1 := by
  rw [nearestRank_eq, nearestRank_eq, Nat.mul_assoc, Nat.mul_div_cancel_left _ hk, Nat.div_one,
    roundDiv_mul_left hk, Nat.one_mul]

/-- A quotient that is too large as an integer is too large. -/
theorem not_nearestRank_lt {num den : Nat} (hden : 0 < den) (h : den * firstTooLarge ≤ num) :
    ¬ nearestRank num den < 0x7ff0000000000000 := by
  have hfirst : 0x7ff0000000000000 ≤ nearestRank firstTooLarge 1 := by decide +kernel
  have hmono := nearestRank_mono h den
  rw [nearestRank_mul_left hden] at hmono
  omega

/-- The number of digits tells the size of a number up to a factor of ten. -/
theorem toDigits_bounds {m : Nat} (hm : m ≠ 0) :
    10 ^ ((Nat.toDigits 10 m).length - 1) ≤ m ∧ m < 10 ^ (Nat.toDigits 10 m).length := by
  have hpos := Nat.length_toDigits_pos (b := 10) (n := m)
  generalize hlength : (Nat.toDigits 10 m).length = length at hpos ⊢
  constructor
  · -- The lemma of the library asks for one digit at least, so a single digit stands apart.
    by_cases hone : length = 1
    · rw [hone]
      exact Nat.pos_of_ne_zero hm
    · refine Nat.le_of_not_lt fun hlt => ?_
      have hle := (Nat.length_toDigits_le_iff (b := 10) (by decide) (by omega)).2 hlt
      omega
  · exact (Nat.length_toDigits_le_iff (by decide) hpos).1 (by omega)

/-- The two tests for extreme exponents only spare the work. -/
theorem ofDecimal_eq (negative : Bool) (m : Nat) (e : Int) :
    ofDecimal negative m e = ofRatio negative (m * 10 ^ e.toNat) (10 ^ (-e).toNat) := by
  have hpos : 0 < 10 ^ (-e).toNat := Nat.pow_pos (by decide)
  simp only [ofDecimal]
  split_ifs with hsmall hlarge hwhole
  · have hzero : nearestRank (m * 10 ^ e.toNat) (10 ^ (-e).toNat) = 0 := by
      refine nearestRank_eq_zero ?_
      rcases hsmall with rfl | hsmall
      · rw [Nat.zero_mul, Nat.zero_mul]
        exact hpos
      · -- With the digits that there are, the number lacks more places than one grain does.
        have hshort : m < 10 ^ (Nat.toDigits 10 m).length := by
          by_cases hm : m = 0
          · rw [hm]
            exact Nat.pow_pos (by decide)
          · exact (toDigits_bounds hm).2
        obtain ⟨k, hk, hgrain⟩ : ∃ k, k = 331 ∧ 2 * one ≤ 10 ^ k := ⟨331, rfl, by decide +kernel⟩
        have hnum : e.toNat = 0 := by omega
        have hplaces : (Nat.toDigits 10 m).length + k ≤ (-e).toNat := by omega
        rw [hnum, Nat.pow_zero, Nat.mul_one]
        calc 2 * (m * one) = m * (2 * one) := Nat.mul_left_comm ..
          _ ≤ m * 10 ^ k := Nat.mul_le_mul_left m hgrain
          _ < 10 ^ (Nat.toDigits 10 m).length * 10 ^ k :=
            Nat.mul_lt_mul_of_pos_right hshort (Nat.pow_pos (by decide))
          _ = 10 ^ ((Nat.toDigits 10 m).length + k) := (Nat.pow_add ..).symm
          _ ≤ 10 ^ (-e).toNat := Nat.pow_le_pow_right (by decide) hplaces
    simp only [ofRatio, hzero]
    rfl
  · have hinfinite : ¬ nearestRank (m * 10 ^ e.toNat) (10 ^ (-e).toNat) < 0x7ff0000000000000 := by
      refine not_nearestRank_lt hpos ?_
      have hlong := (toDigits_bounds (not_or.1 hsmall).1).1
      obtain ⟨k, hk, hfirst⟩ : ∃ k, k = 330 ∧ firstTooLarge ≤ 10 ^ k :=
        ⟨330, rfl, by decide +kernel⟩
      have hplaces : (-e).toNat + k ≤ (Nat.toDigits 10 m).length - 1 + e.toNat := by omega
      calc 10 ^ (-e).toNat * firstTooLarge ≤ 10 ^ (-e).toNat * 10 ^ k :=
            Nat.mul_le_mul_left _ hfirst
        _ = 10 ^ ((-e).toNat + k) := (Nat.pow_add ..).symm
        _ ≤ 10 ^ ((Nat.toDigits 10 m).length - 1 + e.toNat) :=
          Nat.pow_le_pow_right (by decide) hplaces
        _ = 10 ^ ((Nat.toDigits 10 m).length - 1) * 10 ^ e.toNat := Nat.pow_add ..
        _ ≤ m * 10 ^ e.toNat := Nat.mul_le_mul_right _ hlong
    rw [ofRatio, dif_neg hinfinite]
  · have hden : (-e).toNat = 0 := by omega
    rw [hden]
    rfl
  · have hnum : e.toNat = 0 := by omega
    rw [hnum, Nat.pow_zero, Nat.mul_one]
    rfl

/-- Whether a number is what `m * 10 ^ e` is rounded to. -/
def RoundsDecimal (negative : Bool) (m : Nat) (e : Int) (x : Binary64) : Prop :=
  Rounds negative (m * 10 ^ e.toNat) (10 ^ (-e).toNat) x

theorem roundsDecimal_iff {negative : Bool} {m : Nat} {e : Int} {x : Binary64} :
    RoundsDecimal negative m e x ↔ x = ofDecimal negative m e := by
  rw [RoundsDecimal, rounds_iff (Nat.pow_pos (by decide)), ofDecimal_eq]

end Translucency.Binary64
