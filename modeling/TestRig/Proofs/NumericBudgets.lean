import Mathlib
import TestRig.ProjectFile.Hcl

/-!
Worker budgets written as numbers in the block syntax of project files. Every number is taken:
the count is its value truncated toward zero and then held within the signed 64-bit range, so
`2.5` counts as 2 and a count beyond the range becomes the nearest bound, while a number that
is an integer within the range counts as itself (`workerBudget_truncates_number`). A budget
written as text goes through `parseBudget`, which refuses a fraction.

`Binary.truncated_eq_towardZero` is the arithmetic under it: the truncation computed on a
mantissa and a power of two is the floor of a non-negative value and the ceiling of a
negative one.
-/

namespace TestRig.Number

/-- The rational value of a finite binary number. -/
def Binary.toRat (b : Binary) : ℚ := (if b.neg then -(b.mant : ℚ) else b.mant) * 2 ^ b.exp

/-- Truncation toward zero. -/
def towardZero (q : ℚ) : ℤ := if 0 ≤ q then ⌊q⌋ else ⌈q⌉

theorem towardZero_intCast (v : ℤ) : towardZero v = v := by
  unfold towardZero
  split_ifs
  · exact Int.floor_intCast v
  · exact Int.ceil_intCast v

/-- The magnitude that `truncated` computes is the floor of `mant · 2^exp`. -/
theorem floor_natCast_mul_zpow (m : Nat) (e : Int) :
    ⌊(m : ℚ) * 2 ^ e⌋ = ((if e ≥ 0 then m * Nat.pow 2 e.toNat
      else if (-e).toNat ≥ bitLength m then 0 else m / Nat.pow 2 (-e).toNat : Nat) : ℤ) := by
  by_cases he : 0 ≤ e
  · -- a non-negative exponent scales by a whole power of two
    obtain ⟨k, rfl⟩ := Int.eq_ofNat_of_zero_le he
    have hk : ((2 : ℚ) ^ (k : ℤ)) = ((Nat.pow 2 k : Nat) : ℚ) := by simp
    rw [hk, if_pos he, ← Nat.cast_mul, Int.floor_natCast]
    rfl
  · -- a negative exponent divides by a whole power of two
    obtain ⟨k, hk⟩ := Int.exists_eq_neg_ofNat (Int.le_of_lt (Int.not_le.mp he))
    subst hk
    have hdiv : (m : ℚ) * 2 ^ (-(k : ℤ)) = (m : ℚ) / ((Nat.pow 2 k : Nat) : ℚ) := by
      simp [zpow_neg, div_eq_mul_inv]
    rw [hdiv, Rat.floor_natCast_div_natCast, if_neg he]
    simp only [neg_neg, Int.toNat_natCast]
    split_ifs with hbits
    · -- the shortcut: the mantissa has no more bits than the power of two removes
      have hlt : m < Nat.pow 2 k := by
        rcases Nat.eq_zero_or_pos m with rfl | hm
        · exact Nat.two_pow_pos k
        · have := @Nat.lt_log2_self m
          simp only [bitLength, Nat.pos_iff_ne_zero.mp hm, if_false] at hbits
          exact lt_of_lt_of_le this (Nat.pow_le_pow_right (by decide) hbits)
      rw [← Int.natCast_div, Nat.div_eq_of_lt hlt]
    · rfl

/-- The integer part of a finite number is its value truncated toward zero. -/
theorem Binary.truncated_eq_towardZero (b : Binary) : b.truncated = towardZero b.toRat := by
  have hmag : 0 ≤ (b.mant : ℚ) * 2 ^ b.exp := by positivity
  unfold Binary.truncated Binary.toRat towardZero
  dsimp only
  rw [← floor_natCast_mul_zpow]
  cases b.neg with
  | false => simp [hmag]
  | true =>
    -- a negative zero truncates to zero; any other negative value to minus its floor
    rcases hmag.eq_or_lt with h0 | hpos
    · simp [← h0]
    · have hneg : ¬ 0 ≤ -((b.mant : ℚ) * 2 ^ b.exp) := by linarith
      simp only [if_true, neg_mul, hneg, if_false, Int.ceil_neg]

end TestRig.Number

namespace TestRig.ProjectFile

open TestRig.Number TestRig.Config

theorem saturatedCount_finite (b : Binary) :
    saturatedCount (.finite b) = max (-2 ^ 63) (min (2 ^ 63 - 1) b.truncated) := rfl

/-- A worker budget given as a finite number is that number truncated toward zero and held
within the signed 64-bit range; an integer within the range is taken as it stands. -/
theorem workerBudget_truncates_number {e : Hcl.Expr} {b : Binary}
    (h : e.value = (.num (.finite b), [])) :
    workerBudget e = .ok (Budget.fixed (max (-2 ^ 63) (min (2 ^ 63 - 1) (towardZero b.toRat)))) ∧
    ∀ v : ℤ, b.toRat = v → -2 ^ 63 ≤ v → v < 2 ^ 63 → workerBudget e = .ok (Budget.fixed v) := by
  have hread : workerBudget e = .ok (Budget.fixed (saturatedCount (.finite b))) := by
    simp [workerBudget, h]
  rw [saturatedCount_finite, Binary.truncated_eq_towardZero] at hread
  refine ⟨hread, fun v hv hlo hhi => ?_⟩
  rw [hread, hv, towardZero_intCast]
  congr 2
  omega

/-- The number 2.5 as a worker budget is the count 2. -/
theorem fractional_budget_truncated :
    workerBudget (.literal (.num (.finite ⟨false, 5, -1, 512⟩)) default) = .ok (Budget.fixed 2) := by
  rw [(workerBudget_truncates_number rfl).1]
  norm_num [Binary.toRat, towardZero]

end TestRig.ProjectFile
